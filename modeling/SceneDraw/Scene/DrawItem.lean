import SceneDraw.DisplayList.Batch
import SceneDraw.Geometry.Matrix
import SceneDraw.Layout.Command

namespace SceneDraw.Scene

open DisplayList (Batch)
open Layout (DrawLayer)

structure TextureBinding where
  texture : String
  wrapS : WrapMode
  wrapT : WrapMode
  scale : Vec2 Float32
  deriving DecidableEq

structure DrawItem where
  object : Nat
  list : String
  layer : DrawLayer
  transform : Matrix
  zBuffer : Bool
  billboard : Bool
  batches : List Batch
  /-- One for each batch, and none for those without texture. -/
  textures : List (Option TextureBinding)
  deriving DecidableEq

/-- `shade` is a color, or under lighting a normal. -/
structure DrawVertex where
  pos : Vec4 Float32
  uv : Vec2 Float32
  shade : Vec4 Float32
  deriving DecidableEq

def texels (coordinate : Float32) : Float32 := coordinate / 32 + 0.5

def normalComponent (b : UInt8) : Float32 :=
  let x := signedByte b
  if x < 0 then x / 128 else x / 127

def shade (state : RenderState) (transform : Matrix) (cn : Vec4 UInt8) : Vec4 Float32 :=
  if state.lighting then
    ((transform.direction (cn.xyz.map normalComponent)).withW 0).normalize
  else
    let alpha := (state.environment.map (·.a)).getD cn.w
    (cn.xyz.withW alpha).map unitByte

def worldVertices (b : Batch) (transform : Matrix) : List DrawVertex :=
  b.corners.map fun c =>
    { pos := (transform.point c.vertex.position).withW 1
      uv := c.vertex.textureCoordinates.map texels
      shade := shade b.state transform c.vertex.cn }

namespace DrawItem

def triangleCount (i : DrawItem) : Nat := i.batches.foldl (· + ·.triangleCount) 0

def worldVertices (i : DrawItem) (batch : Nat) : List DrawVertex :=
  match i.batches[batch]? with
  | some b => Scene.worldVertices b i.transform
  | none => []

def triangleVertices (i : DrawItem) : List DrawVertex :=
  i.batches.flatMap fun b =>
    let vertices := (Scene.worldVertices b i.transform).toArray
    b.indices.filterMap fun k => vertices[k]?

end DrawItem

def layerVertices (items : List DrawItem) (layer : DrawLayer) : List DrawVertex :=
  (items.filter (·.layer == layer)).flatMap (·.triangleVertices)

end SceneDraw.Scene
