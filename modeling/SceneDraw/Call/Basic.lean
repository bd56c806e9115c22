import SceneDraw.Call.Error

namespace SceneDraw

structure Call where
  name : String
  args : List Arg
  deriving DecidableEq

namespace Call

def ofTexts (name : String) (texts : List String) : Call := ⟨name, texts.map Arg.parse⟩

variable (c : Call)

def expectArity (n : Nat) : Except ParseError Unit :=
  if c.args.length = n then .ok () else .error (.arity c.name n c.args.length)

def expectArityRange (min max : Nat) : Except ParseError Unit :=
  if min ≤ c.args.length ∧ c.args.length ≤ max then .ok ()
  else .error (.arityRange c.name min max c.args.length)

def arg (i : Nat) : Except ParseError Arg :=
  match c.args[i]? with
  | some a => .ok a
  | none => .error (.missingArgument c.name i)

def read {α : Type} (view : Arg → Option α) (expected : String) (i : Nat) : Except ParseError α := do
  let a ← c.arg i
  match view a with
  | some x => .ok x
  | none => .error (.unexpected c.name i expected a)

def int (i : Nat) : Except ParseError Int64 := c.read Arg.int? "an integer" i

def float (i : Nat) : Except ParseError Float32 := c.read Arg.float32? "a number" i

def bool (i : Nat) : Except ParseError Bool := c.read Arg.bool? "a boolean" i

def symbol (i : Nat) : Except ParseError String := c.read Arg.symbol? "a name" i

end Call

end SceneDraw
