import SceneDraw.Call.Basic
import SceneDraw.Source.Comment

namespace SceneDraw.Call

def isSpace (c : Char) : Bool :=
  c == ' ' || c == '\t' || c == '\n' || c == '\x0c' || c == '\r'

def isNameStart (c : Char) : Bool :=
  ('a' ≤ c && c ≤ 'z') || ('A' ≤ c && c ≤ 'Z') || c == '_'

def isNameChar (c : Char) : Bool := isNameStart c || ('0' ≤ c && c ≤ '9')

def splitName : List Char → Option (List Char × List Char)
  | [] => none
  | c :: s => if isNameStart c then some (c :: s.takeWhile isNameChar, s.dropWhile isNameChar) else none

def isOpener (c : Char) : Bool := c == '(' || c == '\x7b'

def isCloser (c : Char) : Bool := c == ')' || c == '\x7d'

/--
The texts between the commas at nesting depth zero, up to the parenthesis that closes the list,
and whether there is one.
-/
def splitArgs : Nat → List Char → List (List Char) × Bool
  | _, [] => ([[]], false)
  | depth, c :: s =>
    let keep (r : List (List Char) × Bool) := (r.1.modifyHead (c :: ·), r.2)
    if isOpener c then keep (splitArgs (depth + 1) s)
    else
      match depth with
      | depth + 1 => keep (splitArgs (if isCloser c then depth else depth + 1) s)
      | 0 =>
        if c = ')' then ([[]], true)
        else if c = ',' then
          let (pieces, closed) := splitArgs 0 s
          ([] :: pieces, closed)
        else keep (splitArgs 0 s)

def balanced : Nat → List Char → Bool
  | depth, [] => depth == 0
  | depth, '(' :: s => balanced (depth + 1) s
  | 0, ')' :: _ => false
  | depth + 1, ')' :: s => balanced depth s
  | depth, _ :: s => balanced depth s

def unwrap? : List Char → Option (List Char)
  | '(' :: s => if s.getLast? = some ')' ∧ balanced 0 s.dropLast then some s.dropLast else none
  | _ => none

theorem length_lt_of_unwrap? {s inner : List Char} (h : unwrap? s = some inner) :
    inner.length < s.length := by
  unfold unwrap? at h
  split at h
  · split at h
    · obtain rfl := Option.some.inj h
      rw [List.length_dropLast, List.length_cons]
      omega
    · simp at h
  · simp at h

def stripParens (s : List Char) : List Char :=
  match h : unwrap? s with
  | none => s
  | some inner =>
    have := Nat.lt_of_le_of_lt (Text.length_trim_le inner) (length_lt_of_unwrap? h)
    stripParens (Text.trim inner)
termination_by s.length

def readArg (name : String) (text : List Char) : Except ParseError Arg :=
  match Text.trim text with
  | [] => .error (.emptyArgument name)
  | text => .ok (.ofChars (stripParens text))

def readArgs (name : String) (s : List Char) : Except ParseError (List Arg) :=
  match splitArgs 0 s with
  | (pieces, false) => do
    let _ ← pieces.dropLast.mapM (readArg name)
    .error (.unterminated name)
  | ([piece], true) => if Text.allBlank piece then .ok [] else [piece].mapM (readArg name)
  | (pieces, true) => pieces.mapM (readArg name)

def parseCode (s : List Char) : Except ParseError (Option Call) :=
  match splitName (s.dropWhile isSpace) with
  | none => .ok none
  | some (name, rest) =>
    match rest.dropWhile isSpace with
    | '(' :: rest => do
      let name := String.ofList name
      let args ← readArgs name rest
      .ok (some ⟨name, args⟩)
    | _ => .ok none

def parse (line : String) : Except ParseError (Option Call) :=
  parseCode (Source.stripLineComments line.toList)

end SceneDraw.Call
