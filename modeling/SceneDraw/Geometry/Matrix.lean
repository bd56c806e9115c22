import SceneDraw.Geometry.Vector
import SceneDraw.Number.Shortest

/-!
Transforms of space as four by four matrices on column vectors. The last column is the
offset, and a product applies its right factor first. Angles are in degrees.
-/

namespace SceneDraw

structure Matrix where
  row₀ : Vec4 Float32
  row₁ : Vec4 Float32
  row₂ : Vec4 Float32
  row₃ : Vec4 Float32
  deriving DecidableEq

namespace Matrix

def identity : Matrix := ⟨⟨1, 0, 0, 0⟩, ⟨0, 1, 0, 0⟩, ⟨0, 0, 1, 0⟩, ⟨0, 0, 0, 1⟩⟩

def zero : Matrix := ⟨⟨0, 0, 0, 0⟩, ⟨0, 0, 0, 0⟩, ⟨0, 0, 0, 0⟩, ⟨0, 0, 0, 0⟩⟩

def rows (m : Matrix) : List (Vec4 Float32) := [m.row₀, m.row₁, m.row₂, m.row₃]

def transpose (m : Matrix) : Matrix :=
  ⟨⟨m.row₀.x, m.row₁.x, m.row₂.x, m.row₃.x⟩, ⟨m.row₀.y, m.row₁.y, m.row₂.y, m.row₃.y⟩,
    ⟨m.row₀.z, m.row₁.z, m.row₂.z, m.row₃.z⟩, ⟨m.row₀.w, m.row₁.w, m.row₂.w, m.row₃.w⟩⟩

def apply (m : Matrix) (v : Vec4 Float32) : Vec4 Float32 :=
  ⟨m.row₀.accumulate v, m.row₁.accumulate v, m.row₂.accumulate v, m.row₃.accumulate v⟩

def mul (m n : Matrix) : Matrix :=
  let columns := n.transpose
  let row (r : Vec4 Float32) : Vec4 Float32 :=
    ⟨r.accumulate columns.row₀, r.accumulate columns.row₁, r.accumulate columns.row₂,
      r.accumulate columns.row₃⟩
  ⟨row m.row₀, row m.row₁, row m.row₂, row m.row₃⟩

instance : Mul Matrix := ⟨mul⟩

def translate (t : Vec3 Float32) : Matrix :=
  ⟨⟨1, 0, 0, t.x⟩, ⟨0, 1, 0, t.y⟩, ⟨0, 0, 1, t.z⟩, ⟨0, 0, 0, 1⟩⟩

def scaleBy (s : Vec3 Float32) : Matrix :=
  ⟨⟨s.x, 0, 0, 0⟩, ⟨0, s.y, 0, 0⟩, ⟨0, 0, s.z, 0⟩, ⟨0, 0, 0, 1⟩⟩

def scale (s : Float32) : Matrix := scaleBy ⟨s, s, s⟩

/-- The single precision number nearest to the quotient of pi, in single precision, by 180. -/
def radiansPerDegree : Float32 := .ofBits 0x3c8efa35

def radians (degrees : Float32) : Float32 := degrees * radiansPerDegree

def rotateX (angle : Float32) : Matrix :=
  let s := (radians angle).sin
  let c := (radians angle).cos
  ⟨⟨1, 0, 0, 0⟩, ⟨0, c, -s, 0⟩, ⟨0, s, c, 0⟩, ⟨0, 0, 0, 1⟩⟩

def rotateY (angle : Float32) : Matrix :=
  let s := (radians angle).sin
  let c := (radians angle).cos
  ⟨⟨c, 0, s, 0⟩, ⟨0, 1, 0, 0⟩, ⟨-s, 0, c, 0⟩, ⟨0, 0, 0, 1⟩⟩

def rotateZ (angle : Float32) : Matrix :=
  let s := (radians angle).sin
  let c := (radians angle).cos
  ⟨⟨c, -s, 0, 0⟩, ⟨s, c, 0, 0⟩, ⟨0, 0, 1, 0⟩, ⟨0, 0, 0, 1⟩⟩

def rotateZXY (r : Vec3 Float32) : Matrix := rotateY r.y * rotateX r.x * rotateZ r.z

def rotateXYZ (r : Vec3 Float32) : Matrix := rotateZ r.z * rotateY r.y * rotateX r.x

def offset (m : Matrix) : Vec3 Float32 := ⟨m.row₀.w, m.row₁.w, m.row₂.w⟩

def point (m : Matrix) (p : Vec3 Float32) : Vec3 Float32 := (m.apply (p.withW 1)).xyz

def direction (m : Matrix) (d : Vec3 Float32) : Vec3 Float32 := (m.apply (d.withW 0)).xyz

def same (m n : Matrix) : Bool :=
  (m.rows.flatMap Vec4.toList).zip (n.rows.flatMap Vec4.toList) |>.all fun (a, b) => a == b

def display (m : Matrix) : String :=
  let entry (x : Float32) : String := "\t" ++ Number.displayThousandths x ++ " "
  let line (r : Vec4 Float32) : String := "  [ " ++ String.join (r.toList.map entry) ++ "\t]\n"
  "Matrixf [\n" ++ String.join (m.rows.map line) ++ "]"

end Matrix

end SceneDraw
