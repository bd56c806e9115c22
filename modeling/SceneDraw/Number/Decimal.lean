import SceneDraw.Number.Digits

namespace SceneDraw.Number

structure Decimal where
  negative : Bool
  coefficient : Nat
  exponent : Int
  deriving DecidableEq, Repr

def splitSign : List Char → Bool × List Char
  | '-' :: s => (true, s)
  | '+' :: s => (false, s)
  | s => (false, s)

def signed (negative : Bool) (n : Nat) : Int := if negative then -n else n

def readExponent : List Char → Option Int
  | [] => some 0
  | c :: s =>
    if c = 'e' ∨ c = 'E' then
      let (negative, s) := splitSign s
      (readDec s).map (signed negative)
    else none

def Decimal.read? (s : List Char) : Option Decimal := do
  let (negative, s) := splitSign s
  let whole := s.takeWhile isDecDigit
  let (part, rest) :=
    match s.dropWhile isDecDigit with
    | '.' :: s => (s.takeWhile isDecDigit, s.dropWhile isDecDigit)
    | s => ([], s)
  let coefficient ← readDec (whole ++ part)
  let exponent ← readExponent rest
  some ⟨negative, coefficient, exponent - part.length⟩

def Decimal.toFloat (d : Decimal) : Float :=
  let order := d.exponent + (decimal d.coefficient).length
  let x : Float :=
    if d.coefficient = 0 ∨ order < -330 then 0.0
    else if 310 < order then 1.0 / 0.0
    else if 0 ≤ d.exponent then .ofScientific d.coefficient false d.exponent.toNat
    else .ofScientific d.coefficient true (-d.exponent).toNat
  if d.negative then -x else x

end SceneDraw.Number
