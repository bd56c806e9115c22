namespace SceneDraw

inductive Level
  | debug
  | info
  | warn
  deriving DecidableEq, Repr

inductive Origin
  | bundle
  | layout
  | displayList
  | scene
  deriving DecidableEq, Repr

structure Event where
  level : Level
  origin : Origin
  text : String
  deriving DecidableEq, Repr

abbrev Log := List Event

structure Stopped (ε : Type) where
  error : ε
  log : Log
  deriving DecidableEq

theorem ok_of_bind {ε α β : Type} {x : Except ε α} {f : α → Except ε β} {b : β}
    (h : x >>= f = .ok b) : ∃ a, x = .ok a ∧ f a = .ok b := by
  cases x with
  | error e => cases h
  | ok a => exact ⟨a, rfl, h⟩

theorem error_of_bind {ε α β : Type} {x : Except ε α} {f : α → Except ε β} {e : ε}
    (h : x >>= f = .error e) : x = .error e ∨ ∃ a, x = .ok a ∧ f a = .error e := by
  cases x with
  | error e' => exact .inl (congrArg Except.error (Except.error.inj h))
  | ok a => exact .inr ⟨a, rfl, h⟩

inductive MissingPolicy
  | skip
  | fail
  deriving DecidableEq, Repr

end SceneDraw
