import SceneDraw.Geometry.Vector
import SceneDraw.Json.Basic
import SceneDraw.KeyMap

/-! Reading typed values from JSON. A value of another form is refused. -/

namespace SceneDraw.Format

abbrev Decoder (α : Type) := Json → Option α

variable {α : Type}

def string : Decoder String
  | .str s => some s
  | _ => none

def bool : Decoder Bool
  | .bool b => some b
  | _ => none

def integer (least greatest : Int) : Decoder Int
  | .int n => if least ≤ n ∧ n ≤ greatest then some n else none
  | _ => none

def unsigned (width : Nat) : Decoder Nat := fun j =>
  let bound : Int := Nat.pow 2 width
  (integer 0 (bound - 1) j).map (·.toNat)

def signed (width : Nat) : Decoder Int :=
  let bound : Int := Nat.pow 2 (width - 1)
  integer (-bound) (bound - 1)

def uint8 : Decoder UInt8 := fun j => (unsigned 8 j).map .ofNat

def uint16 : Decoder UInt16 := fun j => (unsigned 16 j).map .ofNat

def uint32 : Decoder UInt32 := fun j => (unsigned 32 j).map .ofNat

def int8 : Decoder Int8 := fun j => (signed 8 j).map .ofInt

def int16 : Decoder Int16 := fun j => (signed 16 j).map .ofInt

def int32 : Decoder Int32 := fun j => (signed 32 j).map .ofInt

def size : Decoder Nat := unsigned 64

def float32 : Decoder Float32
  | .int n => some (.ofInt n)
  | .double x => some x.toFloat32
  | .single x => some x
  | _ => none

def optional (d : Decoder α) : Decoder (Option α)
  | .null => some none
  | j => (d j).map some

def list (d : Decoder α) : Decoder (List α)
  | .arr items => items.mapM d
  | _ => none

def vec2 (d : Decoder α) : Decoder (Vec2 α)
  | .arr [x, y] => return ⟨← d x, ← d y⟩
  | _ => none

def vec3 (d : Decoder α) : Decoder (Vec3 α)
  | .arr [x, y, z] => return ⟨← d x, ← d y, ← d z⟩
  | _ => none

def vec4 (d : Decoder α) : Decoder (Vec4 α)
  | .arr [x, y, z, w] => return ⟨← d x, ← d y, ← d z, ← d w⟩
  | _ => none

def table (d : Decoder α) : Decoder (KeyMap String α)
  | .obj members => (members.mapM fun m => (d m.2).map (m.1, ·)).map KeyMap.ofList
  | _ => none

def nameSet : Decoder NameSet := fun j => (list string j).map .ofNames

def variant (cases : List (String × α)) : Decoder α
  | .str s => (cases.find? (·.1 = s)).map (·.2)
  | .obj [(s, .null)] => (cases.find? (·.1 = s)).map (·.2)
  | _ => none

abbrev Fields := List (String × Json)

/--
A record with fields of the given names: an object, in which none of them occurs twice and other
members do not matter, or an array of the first fields in order.
-/
def fields (names : List String) : Decoder Fields
  | .obj members =>
    let known := members.filter fun m => names.contains m.1
    if (known.map (·.1)).Nodup then some known else none
  | .arr items => if items.length ≤ names.length then some (names.zip items) else none
  | _ => none

namespace Fields

def find? (fs : Fields) (name : String) : Option Json := (List.find? (·.1 = name) fs).map (·.2)

def required (fs : Fields) (name : String) (d : Decoder α) : Option α := (fs.find? name).bind d

def withDefault (fs : Fields) (name : String) (d : Decoder α) (default : α) : Option α :=
  match fs.find? name with
  | none => some default
  | some j => d j

end Fields

end SceneDraw.Format
