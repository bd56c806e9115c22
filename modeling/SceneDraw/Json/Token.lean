import SceneDraw.Json.Number
import SceneDraw.Json.Quoted

namespace SceneDraw.Json

inductive Token
  | mark (c : Char)
  | str (s : Option String)
  | scalar (j : Json)

def isSpace (c : Char) : Bool := c == ' ' || c == '\t' || c == '\n' || c == '\r'

def isMark (c : Char) : Bool :=
  c == '[' || c == ']' || c == '\x7b' || c == '\x7d' || c == ',' || c == ':'

def isWordChar (c : Char) : Bool := !(isSpace c || isMark c || c == '"')

def readWord? (s : List Char) : Option Json :=
  if s = "null".toList then some .null
  else if s = "true".toList then some (.bool true)
  else if s = "false".toList then some (.bool false)
  else readNumber? s

def tokens : List Char → Option (List Token)
  | [] => some []
  | c :: s =>
    if isSpace c then tokens s
    else if isMark c then (tokens s).map (.mark c :: ·)
    else if c = '"' then
      match h : rawString s with
      | none => none
      | some (t, rest) => do
        have := length_lt_of_rawString h
        let ps ← pieces? t
        return .str ((join? ps).map .ofList) :: (← tokens rest)
    else
      match readWord? (c :: s.takeWhile isWordChar) with
      | none => none
      | some j =>
        have := (List.dropWhile_sublist isWordChar (l := s)).length_le
        (tokens (s.dropWhile isWordChar)).map (.scalar j :: ·)
termination_by s => s.length
decreasing_by all_goals (simp only [List.length_cons]; omega)

end SceneDraw.Json
