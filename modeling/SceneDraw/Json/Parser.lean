import SceneDraw.Json.Token

namespace SceneDraw.Json

inductive Frame
  | array (items : List Json)
  | object (members : List (Option String × Json)) (key : Option String)

inductive Place
  | value
  | firstItem
  | firstKey
  | nextKey
  | colon
  | afterValue
  deriving DecidableEq

structure Reader where
  place : Place := .value
  stack : List Frame := []
  result : Option Json := none

namespace Reader

def deliver (j : Json) : List Frame → Reader
  | [] => { place := .afterValue, result := some j }
  | .array items :: stack => { place := .afterValue, stack := .array (j :: items) :: stack }
  | .object members key :: stack =>
    { place := .afterValue, stack := .object ((key, j) :: members) key :: stack }

def openFrame (r : Reader) (frame : Frame) (place : Place) : Reader :=
  { r with place, stack := frame :: r.stack }

def startValue (r : Reader) : Token → Option Reader
  | .scalar j => some (deliver j r.stack)
  | .str s => some (deliver ((s.map .str).getD .unreadable) r.stack)
  | .mark c =>
    if c = '[' then some (r.openFrame (.array []) .firstItem)
    else if c = '\x7b' then some (r.openFrame (.object [] none) .firstKey)
    else none

def closeArray (r : Reader) : Option Reader :=
  match r.stack with
  | .array items :: stack => some (deliver (.arr items.reverse) stack)
  | _ => none

def objectOf (members : List (Option String × Json)) : Json :=
  match members.mapM fun m => m.1.map (·, m.2) with
  | some members => .obj members
  | none => .unreadable

def closeObject (r : Reader) : Option Reader :=
  match r.stack with
  | .object members _ :: stack => some (deliver (objectOf members.reverse) stack)
  | _ => none

def setKey (r : Reader) (key : Option String) : Option Reader :=
  match r.stack with
  | .object members _ :: stack =>
    some { r with place := .colon, stack := .object members key :: stack }
  | _ => none

def nextEntry (r : Reader) : Option Reader :=
  match r.stack with
  | .array _ :: _ => some { r with place := .value }
  | .object _ _ :: _ => some { r with place := .nextKey }
  | [] => none

def step (r : Reader) (t : Token) : Option Reader :=
  match r.place, t with
  | .value, t => r.startValue t
  | .firstItem, .mark ']' => r.closeArray
  | .firstItem, t => r.startValue t
  | .firstKey, .mark '\x7d' => r.closeObject
  | .firstKey, .str key => r.setKey key
  | .nextKey, .str key => r.setKey key
  | .colon, .mark ':' => some { r with place := .value }
  | .afterValue, .mark ',' => r.nextEntry
  | .afterValue, .mark ']' => r.closeArray
  | .afterValue, .mark '\x7d' => r.closeObject
  | _, _ => none

end Reader

def parse? (text : String) : Option Json := do
  let r ← (← tokens text.toList).foldlM Reader.step {}
  r.result

end SceneDraw.Json
