import SceneDraw.Number.Binary
import SceneDraw.Number.Digits

/-!
The shortest decimal that reads back as a given binary number. Of the decimals that round to the
number, those on the coarsest grid `10 ^ k` are taken, and of these the nearest.
-/

namespace SceneDraw.Number

def Binary.decimalBound (b : Binary) : Int :=
  (b.mantissa.log2 + b.exponent + 1) * 30103 / 100000 + 2

/--
The multiple of `10 ^ k` nearest to `b`, if it or the one on the other side of `b` rounds to `b`.
The ends of the rounding interval belong to it when the mantissa is even.
-/
def Binary.onGrid (tie : Tie) (b : Binary) (k : Int) : Option Nat :=
  let (up, down) := scale (b.exponent - 2) (-k)
  let mid := 4 * b.mantissa * up
  let low := (4 * b.mantissa - if b.narrow then 1 else 2) * up
  let high := (4 * b.mantissa + 2) * up
  let inside (n : Nat) : Bool :=
    if b.mantissa % 2 = 0 then low ≤ n * down && n * down ≤ high
    else low < n * down && n * down < high
  let near := roundDiv tie mid down
  let other := if near * down ≤ mid then near + 1 else near - 1
  if inside near then some near else if inside other then some other else none

def Binary.shortest (tie : Tie) (b : Binary) : Nat × Int :=
  if b.mantissa = 0 then (0, 0)
  else
    let ks := (List.range 40).map fun i => b.decimalBound - (i : Nat)
    (ks.findSome? fun k => (b.onGrid tie k).bind fun n => if n = 0 then none else some (n, k)).getD
      (0, 0)

def positional (coefficient : Nat) (exponent : Int) : List Char :=
  let digits := decimal coefficient
  if 0 ≤ exponent then
    if coefficient = 0 then ['0'] else digits ++ List.replicate exponent.toNat '0'
  else
    let places := (-exponent).toNat
    if places < digits.length then
      digits.take (digits.length - places) ++ '.' :: digits.drop (digits.length - places)
    else '0' :: '.' :: List.replicate (places - digits.length) '0' ++ digits

def Binary.fixed (places : Nat) (b : Binary) : List Char :=
  let (up, down) := scale b.exponent places
  let n := roundDiv .even (b.mantissa * up) down
  let one := Nat.pow 10 places
  decimal (n / one) ++ '.' :: decimalPadded places (n % one)

def Reading.render (form : Binary → List Char) : Reading → String
  | .nan => "NaN"
  | .infinite negative => if negative then "-inf" else "inf"
  | .finite b => .ofList ((if b.negative then ['-'] else []) ++ form b)

def displayFloat (x : Float) : String :=
  (Reading.ofFloat x).render fun b =>
    let (n, k) := b.shortest .up
    positional n k

def displayThousandths (x : Float32) : String := (Reading.ofFloat32 x).render (·.fixed 3)

end SceneDraw.Number
