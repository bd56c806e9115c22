import SceneDraw.Geometry.Vector

namespace SceneDraw

inductive ImageFormat
  | rgba
  | yuv
  | ci
  | ia
  | i
  deriving DecidableEq, Repr

namespace ImageFormat

def all : List ImageFormat := [rgba, yuv, ci, ia, i]

def ofNumber? (n : Nat) : Option ImageFormat := all[n]?

def number (f : ImageFormat) : Nat := f.ctorIdx

def label : ImageFormat → String
  | rgba => "Rgba"
  | yuv => "Yuv"
  | ci => "Ci"
  | ia => "Ia"
  | i => "I"

end ImageFormat

inductive TexelSize
  | bits4
  | bits8
  | bits16
  | bits32
  deriving DecidableEq, Repr

namespace TexelSize

def all : List TexelSize := [bits4, bits8, bits16, bits32]

def ofNumber? (n : Nat) : Option TexelSize := all[n]?

def number (s : TexelSize) : Nat := s.ctorIdx

def bits : TexelSize → Nat
  | bits4 => 4
  | bits8 => 8
  | bits16 => 16
  | bits32 => 32

def label : TexelSize → String
  | bits4 => "Bits4"
  | bits8 => "Bits8"
  | bits16 => "Bits16"
  | bits32 => "Bits32"

end TexelSize

structure TileWrap where
  mirror : Bool
  clamp : Bool
  deriving DecidableEq, Repr

namespace TileWrap

def ofByte (b : UInt8) : TileWrap := ⟨b &&& 1 != 0, b &&& 2 != 0⟩

def toByte (w : TileWrap) : UInt8 :=
  (if w.mirror then 1 else 0) ||| if w.clamp then 2 else 0

end TileWrap

inductive WrapMode
  | repeating
  | mirrored
  | clamped
  deriving DecidableEq, Repr

def TileWrap.mode (w : TileWrap) : WrapMode :=
  if w.clamp then .clamped else if w.mirror then .mirrored else .repeating

def WrapMode.label : WrapMode → String
  | repeating => "Repeat"
  | mirrored => "MirrorRepeat"
  | clamped => "Clamp"

structure Tile where
  format : ImageFormat
  size : TexelSize
  line : UInt32
  memory : UInt32
  index : UInt32
  palette : UInt32
  wrapT : TileWrap
  maskT : UInt32
  shiftT : UInt32
  wrapS : TileWrap
  maskS : UInt32
  shiftS : UInt32
  deriving DecidableEq, Repr

/-- The scale of texture coordinates in units of 1/65536, with a mipmap level and a tile. -/
structure TextureScale where
  s : UInt32
  t : UInt32
  level : UInt32
  tile : UInt32
  deriving DecidableEq, Repr

def TextureScale.factors (k : TextureScale) : Vec2 Float32 :=
  ⟨k.s.toFloat32 / 65536, k.t.toFloat32 / 65536⟩

abbrev Rgb := Vec3 UInt8

structure Rgba where
  r : UInt8
  g : UInt8
  b : UInt8
  a : UInt8
  deriving DecidableEq, Repr

def unitByte (b : UInt8) : Float32 := b.toFloat32 / 255

def Rgba.rgb (c : Rgba) : Rgb := ⟨c.r, c.g, c.b⟩

def Rgba.unit (c : Rgba) : Vec4 Float32 := (⟨c.r, c.g, c.b, c.a⟩ : Vec4 UInt8).map unitByte

structure CombineMode where
  first : String
  second : Option String
  deriving DecidableEq, Repr

end SceneDraw
