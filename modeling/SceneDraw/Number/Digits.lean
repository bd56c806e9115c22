namespace SceneDraw.Number

def decDigit? (c : Char) : Option Nat :=
  if '0' ≤ c ∧ c ≤ '9' then some (c.toNat - '0'.toNat) else none

def hexDigit? (c : Char) : Option Nat :=
  if '0' ≤ c ∧ c ≤ '9' then some (c.toNat - '0'.toNat)
  else if 'a' ≤ c ∧ c ≤ 'f' then some (c.toNat - 'a'.toNat + 10)
  else if 'A' ≤ c ∧ c ≤ 'F' then some (c.toNat - 'A'.toNat + 10)
  else none

def isDecDigit (c : Char) : Bool := (decDigit? c).isSome

def readDigits (base : Nat) (digit? : Char → Option Nat) (acc : Nat) (s : List Char) :
    Option Nat :=
  s.foldlM (fun n c => (digit? c).map (base * n + ·)) acc

def readNumeral (base : Nat) (digit? : Char → Option Nat) : List Char → Option Nat
  | [] => none
  | s => readDigits base digit? 0 s

def readDec : List Char → Option Nat := readNumeral 10 decDigit?

def readHex : List Char → Option Nat := readNumeral 16 hexDigit?

def hexChar (upper : Bool) (n : Nat) : Char :=
  if n < 10 then .ofNat ('0'.toNat + n)
  else .ofNat ((if upper then 'A' else 'a').toNat + (n - 10))

def hexPadded (upper : Bool) : Nat → Nat → List Char
  | 0, _ => []
  | width + 1, n => hexPadded upper width (n / 16) ++ [hexChar upper (n % 16)]

def hexTrimmed (upper : Bool) (width n : Nat) : List Char :=
  match (hexPadded upper width n).dropWhile (· == '0') with
  | [] => ['0']
  | s => s

def decimal (n : Nat) : List Char := Nat.toDigits 10 n

def decimalPadded (width n : Nat) : List Char :=
  List.replicate (width - (decimal n).length) '0' ++ decimal n

end SceneDraw.Number
