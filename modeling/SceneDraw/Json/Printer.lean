import SceneDraw.Json.Basic

namespace SceneDraw.Json

def escape (c : Char) : List Char :=
  if c = '"' then ['\\', '"']
  else if c = '\\' then ['\\', '\\']
  else if c = '\n' then ['\\', 'n']
  else if c = '\r' then ['\\', 'r']
  else if c = '\t' then ['\\', 't']
  else if c = '\x08' then ['\\', 'b']
  else if c = '\x0c' then ['\\', 'f']
  else if c.toNat < 0x20 then '\\' :: 'u' :: Number.hexPadded false 4 c.toNat
  else [c]

def quote (s : String) : String := .ofList ('"' :: (s.toList.flatMap escape ++ ['"']))

structure FloatForm where
  whole : Int
  zeros : Int

def doubleForm : FloatForm := ⟨16, 4⟩

def singleForm : FloatForm := ⟨13, 5⟩

def power (n : Int) : List Char :=
  'e' :: (if n < 0 then '-' else '+') :: Number.decimal n.natAbs

def FloatForm.render (f : FloatForm) (coefficient : Nat) (exponent : Int) : List Char :=
  let digits := Number.decimal coefficient
  let point := digits.length + exponent
  if coefficient = 0 then "0.0".toList
  else if 0 ≤ exponent ∧ point ≤ f.whole then
    Number.positional coefficient exponent ++ ['.', '0']
  else if -f.zeros ≤ point ∧ point ≤ f.whole then Number.positional coefficient exponent
  else
    match digits with
    | d :: e :: ds => d :: '.' :: e :: ds ++ power (point - 1)
    | ds => ds ++ power (point - 1)

def renderReading (f : FloatForm) : Number.Reading → String
  | .finite b =>
    let (n, k) := b.shortest .even
    .ofList ((if b.negative then ['-'] else []) ++ f.render n k)
  | _ => "null"

def renderScalar : Json → String
  | bool b => if b then "true" else "false"
  | int n => toString n
  | double x => renderReading doubleForm (.ofFloat x)
  | single x => renderReading singleForm (.ofFloat32 x)
  | str s => quote s
  | _ => "null"

mutual

def compact : Json → String
  | arr items => "[" ++ compactItems items ++ "]"
  | obj members => "\x7b" ++ compactMembers members ++ "\x7d"
  | j => renderScalar j

def compactItems : List Json → String
  | [] => ""
  | [j] => compact j
  | j :: js => compact j ++ "," ++ compactItems js

def compactMembers : List (String × Json) → String
  | [] => ""
  | [(k, j)] => quote k ++ ":" ++ compact j
  | (k, j) :: ms => quote k ++ ":" ++ compact j ++ "," ++ compactMembers ms

end

def newline (level : Nat) : String := .ofList ('\n' :: List.replicate (2 * level) ' ')

mutual

def pretty (level : Nat) : Json → String
  | arr [] => "[]"
  | arr items => "[" ++ prettyItems (level + 1) items ++ newline level ++ "]"
  | obj [] => "\x7b\x7d"
  | obj members => "\x7b" ++ prettyMembers (level + 1) members ++ newline level ++ "\x7d"
  | j => renderScalar j

def prettyItems (level : Nat) : List Json → String
  | [] => ""
  | [j] => newline level ++ pretty level j
  | j :: js => newline level ++ pretty level j ++ "," ++ prettyItems level js

def prettyMembers (level : Nat) : List (String × Json) → String
  | [] => ""
  | [(k, j)] => newline level ++ quote k ++ ": " ++ pretty level j
  | (k, j) :: ms => newline level ++ quote k ++ ": " ++ pretty level j ++ "," ++ prettyMembers level ms

end

end SceneDraw.Json
