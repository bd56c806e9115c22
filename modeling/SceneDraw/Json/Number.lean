import SceneDraw.Json.Basic
import SceneDraw.Number.Digits

/-! JSON numbers: integers of 64 bits, and doubles for all others. -/

namespace SceneDraw.Json

def significandBound : Nat := Nat.pow 2 64

def takeDigits (significand : Nat) : List Char → Nat × Nat
  | [] => (significand, 0)
  | c :: s =>
    let n := 10 * significand + (Number.decDigit? c).getD 0
    if n < significandBound then takeDigits n s else (significand, s.length + 1)

def powerOfTen (n : Nat) : Float := .ofScientific 1 false n

/--
The significand scaled by a power of ten, in double precision. Small powers are reached in two
steps, and a result beyond all doubles is no number.
-/
def scaleDouble (significand : Nat) (exponent : Int) : Option Float :=
  let x : Float := significand.toUInt64.toFloat
  if significand = 0 then some 0
  else if 308 < exponent then none
  else if 0 ≤ exponent then
    let y := x * powerOfTen exponent.toNat
    if y.isInf then none else some y
  else if -308 ≤ exponent then some (x / powerOfTen (-exponent).toNat)
  else if -616 ≤ exponent then some (x / powerOfTen 308 / powerOfTen (-exponent - 308).toNat)
  else some 0

def readPower : List Char → Option Int
  | [] => some 0
  | c :: s =>
    if c = 'e' ∨ c = 'E' then
      match s with
      | '-' :: s => (Number.readDec s).map fun n => -(n : Int)
      | '+' :: s => (Number.readDec s).map fun n => (n : Int)
      | s => (Number.readDec s).map fun n => (n : Int)
    else none

def isWhole : List Char → Bool
  | [] => false
  | ['0'] => true
  | c :: _ => c != '0'

def ofDouble (negative : Bool) : Option Float → Json
  | none => .unreadable
  | some x => .double (if negative then -x else x)

def ofWhole (negative : Bool) (digits : List Char) : Json :=
  let (n, skipped) := takeDigits 0 digits
  if skipped = 0 then
    if !negative then .int n
    else if n = 0 ∨ Nat.pow 2 63 < n then .double (-n.toUInt64.toFloat)
    else .int (-n)
  else ofDouble negative (scaleDouble n skipped)

def readNumber? (s : List Char) : Option Json := do
  let (negative, s) :=
    match s with
    | '-' :: s => (true, s)
    | s => (false, s)
  let whole := s.takeWhile Number.isDecDigit
  if !isWhole whole then none
  match s.dropWhile Number.isDecDigit with
  | [] => return ofWhole negative whole
  | rest =>
    let (part, rest) ←
      match rest with
      | '.' :: s =>
        let part := s.takeWhile Number.isDecDigit
        if part = [] then none else some (part, s.dropWhile Number.isDecDigit)
      | s => some ([], s)
    let power ← readPower rest
    let (n, skipped) := takeDigits 0 whole
    let (n, unused) := takeDigits n part
    return ofDouble negative (scaleDouble n (power + skipped - (part.length - unused : Nat)))

end SceneDraw.Json
