import SceneDraw.KeyMap
import SceneDraw.Render.Tile

namespace SceneDraw

structure DirectionalLight where
  color : Rgb
  dir : Vec3 Int8
  deriving DecidableEq, Repr

structure Light where
  ambient : Rgb
  directional : List DirectionalLight
  deriving DecidableEq, Repr

inductive LightPart
  | ambient
  | directional (index : Nat)
  deriving DecidableEq, Repr

def LightPart.display : LightPart → String
  | ambient => "Ambient"
  | directional index => s!"Directional({index})"

inductive SlotLight
  | ambient (color : Rgb)
  | directional (light : DirectionalLight)
  deriving DecidableEq, Repr

def Light.part? (l : Light) : LightPart → Option SlotLight
  | .ambient => some (.ambient l.ambient)
  | .directional index => (l.directional[index]?).map .directional

def lightingFlag : String := "G_LIGHTING"

structure RenderState where
  geometryMode : KeyMap String Bool
  combine : Option CombineMode
  lights : KeyMap UInt32 SlotLight
  texture : Option String
  tile : Option Tile
  textureEnabled : Bool
  textureScale : Option TextureScale
  environment : Option Rgba
  deriving DecidableEq

namespace RenderState

def initial : RenderState where
  geometryMode := KeyMap.empty.insert lightingFlag true
  combine := none
  lights := ∅
  texture := none
  tile := none
  textureEnabled := false
  textureScale := none
  environment := none

instance : Inhabited RenderState := ⟨initial⟩

variable (s : RenderState)

def flag (name : String) : Bool := (s.geometryMode.find? name).getD false

def lighting : Bool := s.flag lightingFlag

def usesTexture : Bool := s.textureEnabled && s.texture.isSome

def assignFlags (value : Bool) (flags : List String) : KeyMap String Bool :=
  flags.foldl (fun m name => m.insert name value) s.geometryMode

def setFlags (flags : List String) : RenderState :=
  { s with geometryMode := s.assignFlags true flags }

def clearFlags (flags : List String) : RenderState :=
  { s with
    geometryMode := s.assignFlags false flags
    lights := if lightingFlag ∈ flags then ∅ else s.lights }

def setLight (slot : UInt32) (light : SlotLight) : RenderState :=
  { s with lights := s.lights.insert slot light }

def setLightPair? (light : Light) : Option RenderState :=
  light.directional.head?.map fun d => (s.setLight 1 (.directional d)).setLight 2 (.ambient light.ambient)

def setTextureScale (scale : TextureScale) (enable : Option Bool) : RenderState :=
  { s with textureScale := some scale, textureEnabled := enable.getD s.textureEnabled }

end RenderState

end SceneDraw
