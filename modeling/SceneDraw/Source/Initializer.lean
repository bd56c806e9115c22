import SceneDraw.Call.Error

namespace SceneDraw.Source

def pendingValue (reversed : List Char) : List Arg :=
  if Text.allBlank reversed then [] else [.ofChars reversed.reverse]

/--
The values in the rest of a text, inside `depth` brackets and after a piece of text that is given
in reverse. What stands before an opening bracket is no value.
-/
def flattenFrom : Nat → List Char → List Char → Option (List Arg)
  | 0, pending, [] => some (pendingValue pending)
  | _ + 1, _, [] => none
  | depth, pending, c :: s =>
    if c = '(' ∨ c = '\x7b' then flattenFrom (depth + 1) [] s
    else if c = ',' then (flattenFrom depth [] s).map (pendingValue pending ++ ·)
    else if c = ')' ∨ c = '\x7d' then
      match depth with
      | 0 => none
      | depth + 1 => (flattenFrom depth [] s).map (pendingValue pending ++ ·)
    else flattenFrom depth (c :: pending) s

def flatten (s : List Char) : Except ParseError (List Arg) :=
  match flattenFrom 0 [] s with
  | some values => .ok values
  | none => .error .unbalanced

end SceneDraw.Source
