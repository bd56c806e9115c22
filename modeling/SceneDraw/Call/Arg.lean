import SceneDraw.Number.Decimal
import SceneDraw.Number.Shortest
import SceneDraw.Text.Split

namespace SceneDraw

inductive Arg
  | int (value : Int64)
  | float (value : Float)
  | symbol (text : String)
  deriving DecidableEq

namespace Arg

def magnitude? : List Char → Option Nat
  | '0' :: 'x' :: s => Number.readHex s
  | '0' :: 'X' :: s => Number.readHex s
  | s => Number.readDec s

def readInt? (s : List Char) : Option Int64 := do
  let (negative, s) := Number.splitSign s
  let n ← magnitude? s
  if n < Nat.pow 2 63 then some (.ofInt (Number.signed negative n)) else none

def dropFloatSuffix (s : List Char) : List Char :=
  ((Text.beforeSuffix? ['f'] s).or (Text.beforeSuffix? ['F'] s)).getD s

def isFloatChar (c : Char) : Bool := Number.isDecDigit c || ".eE+-".toList.contains c

def readFloat? (s : List Char) : Option Float :=
  let s := dropFloatSuffix s
  if s.any Number.isDecDigit && s.all isFloatChar then
    (Number.Decimal.read? s).map (·.toFloat)
  else none

def ofChars (s : List Char) : Arg :=
  let s := Text.trim s
  match readInt? s with
  | some n => .int n
  | none =>
    match readFloat? s with
    | some x => .float x
    | none => .symbol (.ofList s)

def parse (text : String) : Arg := ofChars text.toList

def int? : Arg → Option Int64
  | .int n => some n
  | _ => none

def float32? : Arg → Option Float32
  | .int n => some (.ofInt n.toInt)
  | .float x => some x.toFloat32
  | .symbol _ => none

def symbol? : Arg → Option String
  | .symbol s => some s
  | _ => none

def bool? : Arg → Option Bool
  | .int n => some (n != 0)
  | .float _ => none
  | .symbol s =>
    if s ∈ ["TRUE", "G_ON", "true"] then some true
    else if s ∈ ["FALSE", "G_OFF", "false"] then some false
    else none

def display : Arg → String
  | .int n => toString n.toInt
  | .float x => Number.displayFloat x
  | .symbol s => s

def operands (s : String) : List String :=
  (((Text.split '|' s.toList).map Text.trim).filter (!·.isEmpty)).map .ofList

def flags : Arg → List String
  | .symbol s => operands s
  | .int n => ["0x" ++ .ofList (Number.hexTrimmed true 16 n.toUInt64.toNat)]
  | .float x => [Number.displayFloat x]

end Arg

end SceneDraw
