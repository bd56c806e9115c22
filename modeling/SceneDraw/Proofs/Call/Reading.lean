import SceneDraw.Call.Basic
import SceneDraw.Proofs.Basic

namespace SceneDraw

lemma toOption_read {α : Type} (view : Arg → Option α) (expected : String) (c : Call) (i : Nat) :
    (c.read view expected i).toOption = c.args[i]?.bind view := by
  rw [Call.read, Call.arg]
  cases c.args[i]? with
  | none => rfl
  | some a => cases h : view a <;> simp [h, bind, Except.bind, Except.toOption]

variable {α : Type} {view : Arg → Option α} {expected : String} {c c' : Call} {i j : Nat} {x : α}

lemma read_eq_ok_iff :
    c.read view expected i = .ok x ↔ ∃ a, c.args[i]? = some a ∧ view a = some x := by
  rw [← toOption_eq_some_iff, toOption_read, Option.bind_eq_some_iff]

lemma read_congr {a : Arg} (hx : c.read view expected i = .ok x) (h : c.args[i]? = some a)
    (h' : c'.args[j]? = some a) : c'.read view expected j = .ok x := by
  rw [← toOption_eq_some_iff, toOption_read] at hx ⊢
  rw [h', ← h, hx]

end SceneDraw
