import SceneDraw.Call.Basic
import SceneDraw.Render.State

namespace SceneDraw.DisplayList

structure VertexLoad where
  buffer : String
  offset : UInt32
  count : UInt32
  start : UInt32
  deriving DecidableEq, Repr

abbrev Triangle := Vec3 UInt32

inductive Command
  | noOp
  | other (call : Call)
  | call (list : String)
  /-- Continues with another list in place of the rest of this one. -/
  | jump (list : String)
  | finish
  | setMode (flags : List String)
  | clearMode (flags : List String)
  | texture (scale : TextureScale) (enable : Option Bool)
  | lightPair (light : String)
  | light (light : String) (part : LightPart) (slot : UInt32)
  | load (load : VertexLoad)
  | triangle (t : Triangle)
  | twoTriangles (t u : Triangle)
  | combine (mode : CombineMode)
  | tile (tile : Tile)
  | textureImage (format : ImageFormat) (size : TexelSize) (width : UInt32) (texture : String)
  | textureBlock (texture : String) (width height : UInt32) (tile : Tile)
  | environment (color : Rgba)
  deriving DecidableEq

def Command.triangles : Command → List Triangle
  | triangle t => [t]
  | twoTriangles t u => [t, u]
  | _ => []

def Command.isTriangle (c : Command) : Bool := !c.triangles.isEmpty

end SceneDraw.DisplayList
