import SceneDraw.Call.Parser
import SceneDraw.Layout.Command

namespace SceneDraw.Layout

variable (c : Call)

def int32 (i : Nat) : Except ParseError Int32 := do
  let n ← c.int i
  if -0x80000000 ≤ n ∧ n < 0x80000000 then .ok n.toInt32 else .error (.outOfRange c.name i (.int n))

def word (i : Nat) : Except ParseError UInt32 := do
  let n ← c.int i
  if 0 ≤ n ∧ n < 0x100000000 then .ok n.toUInt64.toUInt32
  else .error (.outOfRange c.name i (.int n))

def vector (i : Nat) : Except ParseError (Vec3 Float32) :=
  return ⟨← c.float i, ← c.float (i + 1), ← c.float (i + 2)⟩

def drawLayer? : Arg → Option DrawLayer
  | .int n => if 0 ≤ n then DrawLayer.ofNumber? n.toInt.toNat else none
  | .symbol s => DrawLayer.ofSymbol? s
  | .float _ => none

def drawLayer (i : Nat) : Except ParseError DrawLayer := do
  let a ← c.arg i
  match drawLayer? a with
  | some l => .ok l
  | none => .error (.drawLayer c.name a)

def dropAddressOf (s : String) : List Char := s.toList.dropWhile (· == '&')

def listName (i : Nat) : Except ParseError String := do
  match ← c.arg i with
  | .symbol s => .ok (.ofList (Text.trim (dropAddressOf s)))
  | a => if a = .int 0 then .ok "NULL" else .error (.displayListName c.name a)

def branchTarget (i : Nat) : Except ParseError String :=
  return .ofList (dropAddressOf (← c.symbol i))

def plain (width : Nat) (motion : Except ParseError Motion) : Except ParseError Command := do
  c.expectArity (width + 1)
  let layer ← drawLayer c 0
  return .move (← motion) layer none

def withList (width : Nat) (motion : Except ParseError Motion) : Except ParseError Command := do
  c.expectArity (width + 2)
  let layer ← drawLayer c 0
  let motion ← motion
  return .move motion layer (some (← listName c (width + 1)))

def scaling : Except ParseError Motion := return .scale (← int32 c 1)

def translatingRotating : Except ParseError Motion :=
  return .translateRotate (← vector c 1) (← vector c 4)

def translating : Except ParseError Motion := return .translateRotate (← vector c 1) .zero

def rotating : Except ParseError Motion := return .translateRotate .zero (← vector c 1)

def rotatingY : Except ParseError Motion :=
  return .translateRotate .zero ⟨0, ← c.float 1, 0⟩

def ofCall (c : Call) : Except ParseError Command :=
  match c.name with
  | "GEO_OPEN_NODE" => .ok .openNode
  | "GEO_CLOSE_NODE" => .ok .closeNode
  | "GEO_ZBUFFER" => do
    c.expectArity 1
    return .zBuffer (← c.bool 0)
  | "GEO_RENDER_RANGE" => do
    c.expectArity 2
    return .renderRange (← int32 c 0) (← int32 c 1)
  | "GEO_SWITCH_CASE" => do
    c.expectArity 2
    return .switchCase (← word c 0) (← c.arg 1).display
  | "GEO_BRANCH" => do
    c.expectArity 2
    let layout ← branchTarget c 1
    return .branch layout ((← c.int 0) != 0)
  | "GEO_BRANCH_AND_LINK" => do
    c.expectArity 1
    return .branch (← branchTarget c 0) true
  | "GEO_BILLBOARD" => .ok .billboard
  | "GEO_BILLBOARD_WITH_PARAMS" => plain c 3 (return .billboard (← vector c 1))
  | "GEO_BILLBOARD_WITH_PARAMS_AND_DL" => withList c 3 (return .billboard (← vector c 1))
  | "GEO_SCALE" => plain c 1 (scaling c)
  | "GEO_SCALE_WITH_DL" => withList c 1 (scaling c)
  | "GEO_TRANSLATE_ROTATE" => plain c 6 (translatingRotating c)
  | "GEO_TRANSLATE_ROTATE_WITH_DL" => withList c 6 (translatingRotating c)
  | "GEO_TRANSLATE" => plain c 3 (translating c)
  | "GEO_TRANSLATE_WITH_DL" => withList c 3 (translating c)
  | "GEO_ROTATE" => plain c 3 (rotating c)
  | "GEO_ROTATE_WITH_DL" => withList c 3 (rotating c)
  | "GEO_ROTATE_Y" => plain c 1 (rotatingY c)
  | "GEO_ROTATE_Y_WITH_DL" => withList c 1 (rotatingY c)
  | "GEO_TRANSLATE_NODE" => plain c 3 (return .translate (← vector c 1))
  | "GEO_TRANSLATE_NODE_WITH_DL" => withList c 3 (return .translate (← vector c 1))
  | "GEO_ROTATION_NODE" => plain c 3 (return .rotate (← vector c 1))
  | "GEO_ROTATION_NODE_WITH_DL" => withList c 3 (return .rotate (← vector c 1))
  | "GEO_ANIMATED_PART" => do
    c.expectArity 5
    return .animatedPart (← drawLayer c 0) (← vector c 1) (← listName c 4)
  | "GEO_DISPLAY_LIST" => do
    c.expectArity 2
    return .displayList (← drawLayer c 0) (← listName c 1)
  | _ => .ok (.inert c)

def decodeLine (line : String) : Except ParseError (Option Command) := do
  match ← Call.parse line with
  | some c => return some (← ofCall c)
  | none => return none

end SceneDraw.Layout
