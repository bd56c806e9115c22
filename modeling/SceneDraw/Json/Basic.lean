import SceneDraw.Number.Shortest

namespace SceneDraw

/--
Numbers keep their sort: an integer is not a number with a fraction of zero. Members stand in
order, and a name may occur more than once.
-/
inductive Json
  | null
  | bool (b : Bool)
  | int (n : Int)
  | double (x : Float)
  | single (x : Float32)
  | str (s : String)
  | arr (items : List Json)
  | obj (members : List (String × Json))
  /--
  Well formed, but without a value: a number beyond all doubles, a string with half of a surrogate
  pair, or an object with such a name.
  -/
  | unreadable

namespace Json

def ofNat (n : Nat) : Json := .int n

def strs (ss : List String) : Json := .arr (ss.map .str)

def optional {α : Type} (f : α → Json) : Option α → Json
  | none => .null
  | some a => f a

def readableWithin : Nat → Json → Bool
  | _, .unreadable => false
  | depth + 1, .arr items => items.all (readableWithin depth)
  | depth + 1, .obj members => members.all fun m => readableWithin depth m.2
  | 0, .arr _ | 0, .obj _ => false
  | _, _ => true

def get? (name : String) : Json → Option Json
  | .obj members => (members.reverse.find? (·.1 = name)).map (·.2)
  | _ => none

end Json

end SceneDraw
