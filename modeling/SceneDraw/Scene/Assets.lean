import SceneDraw.Layout.Run
import SceneDraw.DisplayList.Run
import SceneDraw.Source.Conditional
import SceneDraw.Source.Declaration

namespace SceneDraw.Scene

structure Model where
  layout : String
  animation : Option String
  deriving DecidableEq, Repr

structure Assets where
  sources : Sources := {}
  vertices : VertexTable := ∅
  lights : LightTable := ∅
  textures : TextureTable := ∅
  animations : KeyMap String Layout.Animation := ∅
  models : KeyMap String Model := ∅
  deriving DecidableEq

structure Object where
  model : String
  position : Vec3 Float32 := .zero
  rotation : Vec3 Float32 := .zero
  scale : Float32 := 1
  areaOffset : Vec3 Float32 := .zero
  deriving DecidableEq

def Object.transform (o : Object) : Matrix :=
  let rotation := Matrix.rotateZ o.rotation.z * Matrix.rotateX o.rotation.x *
    Matrix.rotateY o.rotation.y
  Matrix.translate (o.position + o.areaOffset) * rotation * Matrix.scale o.scale

structure Config where
  nullName : String := "NULL"
  inertSelectors : NameSet := .ofNames ["geo_switch_area"]
  asymmetricLayouts : NameSet := .ofNames ["bowser_geo"]
  maxDepth : Nat := 64
  frame : Int32 := 0
  policy : MissingPolicy := .skip
  memoize : Bool := true
  deriving DecidableEq

def Config.layoutOptions (c : Config) : Layout.Options where
  nullName := c.nullName
  inertSelectors := c.inertSelectors
  asymmetricLayouts := c.asymmetricLayouts
  maxDepth := c.maxDepth
  frame := c.frame
  policy := c.policy

def Config.listOptions (c : Config) : DisplayList.Options := ⟨c.maxDepth, c.policy⟩

namespace Assets

def addDeclaration (a : Assets) (type name : String) (body : List Char) :
    Except ParseError (Option Assets) :=
  let lines := (Text.trimmedLines body).map String.ofList
  match type with
  | "GeoLayout" => .ok (some { a with sources := a.sources.insert .layout name lines })
  | "Gfx" => .ok (some { a with sources := a.sources.insert .displayList name lines })
  | "Vtx" => return some { a with vertices := ← a.vertices.insertInitializer name body }
  | "Lights1" => return some { a with lights := ← a.lights.insertInitializer name body }
  | _ => .ok none

/--
Adds declarations in order, and counts those that are of interest. An error ends this; what was
added before it stays.
-/
def addDeclarations (text : List Char) :
    List (List Char × List Char) → Assets → Nat → Assets × Except ParseError Nat
  | [], a, count => (a, .ok count)
  | (name, body) :: rest, a, count =>
    match Source.declaredType? text name with
    | none => addDeclarations text rest a count
    | some type =>
      match a.addDeclaration (.ofList type) (.ofList name) body with
      | .error e => (a, .error e)
      | .ok none => addDeclarations text rest a count
      | .ok (some a) => addDeclarations text rest a (count + 1)

def indexFile (a : Assets) (file : String) : Assets × Except ParseError Nat :=
  let text := Source.keepVersion file.toList
  addDeclarations text (Source.declarations text) a 0

end Assets

end SceneDraw.Scene
