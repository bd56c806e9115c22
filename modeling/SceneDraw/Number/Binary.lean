namespace SceneDraw.Number

/--
The number `±mantissa · 2 ^ exponent`. `narrow` says that the next smaller magnitude is half as
far away as the next larger one.
-/
structure Binary where
  negative : Bool
  mantissa : Nat
  exponent : Int
  narrow : Bool
  deriving DecidableEq, Repr

inductive Reading
  | nan
  | infinite (negative : Bool)
  | finite (value : Binary)
  deriving DecidableEq, Repr

def Reading.ofBits (exponentWidth fractionWidth bits : Nat) : Reading :=
  let one := Nat.pow 2 fractionWidth
  let fields := Nat.pow 2 exponentWidth
  let fraction := bits % one
  let field := bits / one % fields
  let negative := bits / one / fields % 2 == 1
  let bias : Int := Nat.pow 2 (exponentWidth - 1) - 1 + fractionWidth
  if field = fields - 1 then
    if fraction = 0 then .infinite negative else .nan
  else if field = 0 then .finite ⟨negative, fraction, 1 - bias, false⟩
  else .finite ⟨negative, fraction + one, field - bias, fraction == 0 && 1 < field⟩

def Reading.ofFloat (x : Float) : Reading := .ofBits 11 52 x.toBits.toNat

def Reading.ofFloat32 (x : Float32) : Reading := .ofBits 8 23 x.toBits.toNat

inductive Tie
  | up
  | even
  deriving DecidableEq, Repr

def roundDiv (tie : Tie) (num den : Nat) : Nat :=
  let q := num / den
  let twice := 2 * (num % den)
  if twice < den then q
  else if den < twice then q + 1
  else
    match tie with
    | .up => q + 1
    | .even => q + q % 2

def scale (a b : Int) : Nat × Nat :=
  (Nat.pow 2 a.toNat * Nat.pow 10 b.toNat, Nat.pow 2 (-a).toNat * Nat.pow 10 (-b).toNat)

end SceneDraw.Number
