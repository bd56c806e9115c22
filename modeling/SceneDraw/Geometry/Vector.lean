/-! Small vectors, and single precision arithmetic on them in a fixed order. -/

namespace SceneDraw

structure Vec2 (α : Type) where
  x : α
  y : α
  deriving DecidableEq, Repr

structure Vec3 (α : Type) where
  x : α
  y : α
  z : α
  deriving DecidableEq, Repr

structure Vec4 (α : Type) where
  x : α
  y : α
  z : α
  w : α
  deriving DecidableEq, Repr

variable {α β : Type}

def Vec2.map (f : α → β) (v : Vec2 α) : Vec2 β := ⟨f v.x, f v.y⟩

def Vec2.toList (v : Vec2 α) : List α := [v.x, v.y]

def Vec3.map (f : α → β) (v : Vec3 α) : Vec3 β := ⟨f v.x, f v.y, f v.z⟩

def Vec3.toList (v : Vec3 α) : List α := [v.x, v.y, v.z]

def Vec4.map (f : α → β) (v : Vec4 α) : Vec4 β := ⟨f v.x, f v.y, f v.z, f v.w⟩

def Vec4.toList (v : Vec4 α) : List α := [v.x, v.y, v.z, v.w]

def Vec4.xyz (v : Vec4 α) : Vec3 α := ⟨v.x, v.y, v.z⟩

def Vec3.withW (v : Vec3 α) (w : α) : Vec4 α := ⟨v.x, v.y, v.z, w⟩

instance [Add α] : Add (Vec3 α) := ⟨fun v w => ⟨v.x + w.x, v.y + w.y, v.z + w.z⟩⟩

def Vec3.zero : Vec3 Float32 := ⟨0, 0, 0⟩

namespace Vec4

def dot (v w : Vec4 Float32) : Float32 := v.x * w.x + v.y * w.y + v.z * w.z + v.w * w.w

def accumulate (v w : Vec4 Float32) : Float32 :=
  0 + v.x * w.x + v.y * w.y + v.z * w.z + v.w * w.w

def smul (v : Vec4 Float32) (s : Float32) : Vec4 Float32 := v.map (· * s)

def normalize (v : Vec4 Float32) : Vec4 Float32 :=
  let length := (v.dot v).sqrt
  if length == 0 then v else v.smul (1 / length)

end Vec4

end SceneDraw
