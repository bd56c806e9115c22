import SceneDraw.Geometry.Vector

namespace SceneDraw

def signedByte (b : UInt8) : Float32 := b.toInt8.toFloat32

/-- `uv` is in units of 1/32 texel, and `cn` is a color or, under lighting, a normal. -/
structure Vertex where
  pos : Vec3 Int16
  flag : UInt16
  uv : Vec2 Int16
  cn : Vec4 UInt8
  deriving DecidableEq, Repr

namespace Vertex

def position (v : Vertex) : Vec3 Float32 := v.pos.map Int16.toFloat32

def textureCoordinates (v : Vertex) : Vec2 Float32 := v.uv.map Int16.toFloat32

def normal (v : Vertex) : Vec3 Float32 := ((v.cn.xyz.map signedByte).withW 0).normalize.xyz

end Vertex

end SceneDraw
