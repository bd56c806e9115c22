import SceneDraw.Geometry.Vertex
import SceneDraw.Render.State
import SceneDraw.Source.Initializer

namespace SceneDraw

abbrev VertexTable := KeyMap String (List Vertex)

abbrev LightTable := KeyMap String Light

abbrev TextureTable := KeyMap String String

def integers (values : List Arg) : Except ParseError (List Int64) :=
  values.mapM fun a =>
    match a.int? with
    | some n => .ok n
    | none => .error (.notInteger a)

namespace Vertex

def ofIntegers : List Int64 → List Vertex
  | x :: y :: z :: flag :: u :: v :: c₀ :: c₁ :: c₂ :: c₃ :: rest =>
    { pos := ⟨x.toInt16, y.toInt16, z.toInt16⟩
      flag := flag.toUInt64.toUInt16
      uv := ⟨u.toInt16, v.toInt16⟩
      cn := ⟨c₀.toUInt64.toUInt8, c₁.toUInt64.toUInt8, c₂.toUInt64.toUInt8, c₃.toUInt64.toUInt8⟩ } ::
      ofIntegers rest
  | _ => []

def listOfValues (values : List Arg) : Except ParseError (List Vertex) :=
  if values.length % 10 = 0 then return ofIntegers (← integers values)
  else throw (.vertexValues values.length)

end Vertex

namespace Light

def color (r g b : Int64) : Rgb := ⟨r.toUInt64.toUInt8, g.toUInt64.toUInt8, b.toUInt64.toUInt8⟩

def directionalOfIntegers : List Int64 → List DirectionalLight
  | r :: g :: b :: x :: y :: z :: rest =>
    ⟨color r g b, ⟨x.toInt8, y.toInt8, z.toInt8⟩⟩ :: directionalOfIntegers rest
  | _ => []

/--
An ambient color and any number of directional lights, or the twenty values of a light structure
in which each color stands twice and padding follows each triple.
-/
def ofIntegers? : List Int64 → Option Light
  | [r, g, b, _, _, _, _, _, r', g', b', _, _, _, _, _, x, y, z, _] =>
    some ⟨color r g b, [⟨color r' g' b', ⟨x.toInt8, y.toInt8, z.toInt8⟩⟩]⟩
  | r :: g :: b :: rest =>
    if rest.length % 6 = 0 then some ⟨color r g b, directionalOfIntegers rest⟩ else none
  | _ => none

def ofValues (values : List Arg) : Except ParseError Light := do
  let ints ← integers values
  match ofIntegers? ints with
  | some light => .ok light
  | none => .error (.lightValues ints.length)

end Light

def VertexTable.insertInitializer (t : VertexTable) (name : String) (body : List Char) :
    Except ParseError VertexTable := do
  let vertices ← Vertex.listOfValues (← Source.flatten body)
  return t.insert name vertices

def LightTable.insertInitializer (t : LightTable) (name : String) (body : List Char) :
    Except ParseError LightTable := do
  let light ← Light.ofValues (← Source.flatten body)
  return t.insert name light

end SceneDraw
