import SceneDraw.Call.Arg

namespace SceneDraw

/-- Positions of arguments count from zero and are reported from one. -/
inductive ParseError
  | unterminated (call : String)
  | emptyArgument (call : String)
  | arity (call : String) (expected found : Nat)
  | arityRange (call : String) (min max found : Nat)
  | missingArgument (call : String) (index : Nat)
  | unexpected (call : String) (index : Nat) (expected : String) (found : Arg)
  | outOfRange (call : String) (index : Nat) (found : Arg)
  | drawLayer (call : String) (found : Arg)
  | displayListName (call : String) (found : Arg)
  | vertexReference (text : String)
  | lightReference (text : String)
  | unbalanced
  | notInteger (found : Arg)
  | vertexValues (count : Nat)
  | lightValues (count : Nat)
  | unreadable (reason : String)
  deriving DecidableEq

namespace ParseError

def message : ParseError → String
  | unterminated call => s!"unterminated argument list for {call}"
  | emptyArgument call => s!"empty argument in call to {call}"
  | arity call expected found => s!"{call} expects {expected} arguments, found {found}"
  | arityRange call min max found =>
    s!"{call} expects {min} to {max} arguments, found {found}"
  | missingArgument call index => s!"{call} is missing argument {index + 1}"
  | unexpected call index expected found =>
    s!"{call} argument {index + 1} should be {expected}, found `{found.display}`"
  | outOfRange call index found =>
    s!"{call} argument {index + 1} is out of range: `{found.display}`"
  | drawLayer call found => s!"{call} has an invalid draw layer `{found.display}`"
  | displayListName call found => s!"{call} has an invalid display list `{found.display}`"
  | vertexReference text => s!"invalid vertex buffer reference `{text}`"
  | lightReference text => s!"invalid light reference `{text}`"
  | unbalanced => "unbalanced initializer"
  | notInteger found => s!"expected an integer, found `{found.display}`"
  | vertexValues count => s!"vertex initializer has {count} values, expected a multiple of 10"
  | lightValues count => s!"light declaration has {count} values"
  | unreadable reason => reason

end ParseError

end SceneDraw
