import SceneDraw.Call.Parser
import SceneDraw.Proofs.Text
import Mathlib.Data.List.Infix

namespace SceneDraw.Call

section Nesting

variable (opens closes : Char → Bool)

def nesting (s : List Char) : Int := s.countP opens - s.countP closes

def Nested (depth : Int) (s : List Char) : Prop := ∀ p, p <+: s → 0 ≤ depth + nesting opens closes p

structure Matched (s : List Char) : Prop where
  nested : Nested opens closes 0 s
  closed : nesting opens closes s = 0

instance (depth : Int) (s : List Char) : Decidable (Nested opens closes depth s) :=
  decidable_of_iff (∀ p ∈ s.inits, 0 ≤ depth + nesting opens closes p)
    (by simp only [List.mem_inits, Nested])

instance (s : List Char) : Decidable (Matched opens closes s) :=
  decidable_of_iff (_ ∧ _) ⟨fun h => ⟨h.1, h.2⟩, fun h => ⟨h.1, h.2⟩⟩

variable {opens closes}

lemma nesting_append (s t : List Char) :
    nesting opens closes (s ++ t) = nesting opens closes s + nesting opens closes t := by
  simp only [nesting, List.countP_append]
  omega

lemma nesting_cons (c : Char) (s : List Char) :
    nesting opens closes (c :: s) = nesting opens closes [c] + nesting opens closes s :=
  nesting_append [c] s

lemma nested_nil_iff {depth : Int} : Nested opens closes depth [] ↔ 0 ≤ depth := by
  simp [Nested, nesting]

lemma nested_cons_iff {depth : Int} {c : Char} {s : List Char} :
    Nested opens closes depth (c :: s) ↔
      0 ≤ depth ∧ Nested opens closes (depth + nesting opens closes [c]) s := by
  have first : nesting opens closes [] = 0 := rfl
  constructor
  · intro h
    refine ⟨by simpa [first] using h [] List.nil_prefix, fun p hp => ?_⟩
    have := h (c :: p) (List.cons_prefix_cons.2 ⟨rfl, hp⟩)
    rwa [nesting_cons, ← Int.add_assoc] at this
  · rintro ⟨h₀, h⟩ p hp
    rcases List.prefix_cons_iff.1 hp with rfl | ⟨q, rfl, hq⟩
    · rwa [first, Int.add_zero]
    · rw [nesting_cons, ← Int.add_assoc]
      exact h q hq

lemma Nested.nonneg {depth : Int} {s : List Char} (h : Nested opens closes depth s) :
    0 ≤ depth := by
  simpa [nesting] using h [] List.nil_prefix

lemma nested_closing_cons_iff {depth : Nat} {next : Int} {c : Char} {s : List Char}
    (hn : depth + nesting opens closes [c] = next) :
    (Nested opens closes depth (c :: s) ∧ depth + nesting opens closes (c :: s) = 0) ↔
      Nested opens closes next s ∧ next + nesting opens closes s = 0 := by
  rw [nested_cons_iff, nesting_cons c s, ← Int.add_assoc, and_iff_right (Int.natCast_nonneg depth),
    hn]

end Nesting

def isLeft (c : Char) : Bool := c == '('

def isRight (c : Char) : Bool := c == ')'

lemma balanced_iff_nested (depth : Nat) (s : List Char) :
    balanced depth s = true ↔
      Nested isLeft isRight depth s ∧ depth + nesting isLeft isRight s = 0 := by
  fun_induction balanced depth s with
  | case1 depth => simp [nested_nil_iff, nesting]
  | case2 depth s ih => exact ih.trans (nested_closing_cons_iff (Int.natCast_succ depth).symm).symm
  | case3 s =>
    refine iff_of_false Bool.false_ne_true fun h => ?_
    have := ((nested_closing_cons_iff rfl).1 h).1.nonneg
    have : nesting isLeft isRight [')'] = -1 := by decide
    omega
  | case4 depth s ih =>
    have inner : ((depth + 1 : Nat) : Int) + nesting isLeft isRight [')'] = depth := by
      have : nesting isLeft isRight [')'] = -1 := by decide
      omega
    exact ih.trans (nested_closing_cons_iff inner).symm
  | case5 depth c s h₁ h₂ h₃ ih =>
    have other : nesting isLeft isRight [c] = 0 := by
      have : c ≠ ')' := by
        cases depth with
        | zero => exact h₂ rfl
        | succ depth => exact h₃ depth rfl
      simp [nesting, isLeft, isRight, show c ≠ '(' from h₁, this]
    exact ih.trans (nested_closing_cons_iff (by rw [other, Int.add_zero])).symm

lemma balanced_iff_matched (s : List Char) : balanced 0 s = true ↔ Matched isLeft isRight s := by
  have := balanced_iff_nested 0 s
  rw [Int.natCast_zero, Int.zero_add] at this
  exact this.trans ⟨fun h => ⟨h.1, h.2⟩, fun h => ⟨h.1, h.2⟩⟩

lemma unwrap?_eq_some_iff {s inner : List Char} :
    unwrap? s = some inner ↔ s = '(' :: inner ++ [')'] ∧ Matched isLeft isRight inner := by
  rw [← balanced_iff_matched]
  constructor
  · intro h
    unfold unwrap? at h
    split at h
    · next t =>
      split at h
      · next hs =>
        obtain ⟨init, rfl⟩ := List.getLast?_eq_some_iff.1 hs.1
        rw [List.dropLast_concat] at h hs
        obtain rfl := Option.some.inj h
        exact ⟨rfl, hs.2⟩
      · cases h
    · cases h
  · rintro ⟨rfl, h⟩
    simp [unwrap?, h]

lemma unwrap?_eq_none_iff {s : List Char} :
    unwrap? s = none ↔ ∀ inner, s = '(' :: inner ++ [')'] → ¬ Matched isLeft isRight inner := by
  simp only [Option.eq_none_iff_forall_ne_some, ne_eq, unwrap?_eq_some_iff, not_and]

lemma nesting_opener {c : Char} (h : isOpener c = true) : nesting isOpener isCloser [c] = 1 := by
  simp only [isOpener, Bool.or_eq_true, beq_iff_eq] at h
  rcases h with rfl | rfl <;> rfl

lemma nesting_closer {c : Char} (h : isCloser c = true) : nesting isOpener isCloser [c] = -1 := by
  simp only [isCloser, Bool.or_eq_true, beq_iff_eq] at h
  rcases h with rfl | rfl <;> rfl

lemma nesting_other {c : Char} (ho : isOpener c = false) (hc : isCloser c = false) :
    nesting isOpener isCloser [c] = 0 := by
  simp [nesting, ho, hc]

inductive Wraps (core : List Char) : List Char → Prop
  | bare : Wraps core core
  | blanks {before text after : List Char} : Text.allBlank before = true → Wraps core text →
      Text.allBlank after = true → Wraps core (before ++ text ++ after)
  | parentheses {text : List Char} : Matched isLeft isRight text → Wraps core text →
      Wraps core ('(' :: text ++ [')'])

/-- Nothing is around all of it: no blanks, and no parentheses that match each other. -/
structure CoreOf (text core : List Char) : Prop where
  wraps : Wraps core text
  trimmed : Text.trim core = core
  unenclosed : ∀ inner, core = '(' :: inner ++ [')'] → ¬ Matched isLeft isRight inner

def core (text : List Char) : List Char := stripParens (Text.trim text)

lemma stripParens_of_none {s : List Char} (h : unwrap? s = none) : stripParens s = s := by
  rw [stripParens]
  split
  · rfl
  · simp_all

lemma stripParens_of_not_mem {s : List Char} (h : '(' ∉ s) : stripParens s = s := by
  refine stripParens_of_none (unwrap?_eq_none_iff.2 ?_)
  rintro inner rfl
  exact absurd List.mem_cons_self h

lemma stripParens_of_some {s inner : List Char} (h : unwrap? s = some inner) :
    stripParens s = core inner := by
  rw [stripParens]
  split
  · simp_all
  · simp_all [core]

lemma wraps_stripParens (s : List Char) : Wraps (stripParens s) s := by
  fun_induction stripParens s with
  | case1 s h => exact .bare
  | case2 s inner h _ ih =>
    obtain ⟨rfl, hm⟩ := unwrap?_eq_some_iff.1 h
    obtain ⟨before, after, hb, ha, hi⟩ := Text.exists_eq_pad_trim inner
    refine .parentheses hm ?_
    rw [hi, Text.trim_pad hb ha, Text.trim_trim]
    exact .blanks hb ih ha

lemma unwrap?_stripParens (s : List Char) : unwrap? (stripParens s) = none := by
  fun_induction stripParens s with
  | case1 s h => exact h
  | case2 s inner h _ ih => exact ih

lemma trim_stripParens {s : List Char} (h : Text.trim s = s) :
    Text.trim (stripParens s) = stripParens s := by
  fun_induction stripParens s with
  | case1 s _ => exact h
  | case2 s inner _ _ ih => exact ih (Text.trim_trim inner)

lemma coreOf_core (text : List Char) : CoreOf text (core text) where
  wraps := by
    obtain ⟨before, after, hb, ha, ht⟩ := Text.exists_eq_pad_trim text
    rw [core]
    conv => rhs; rw [ht]
    exact .blanks hb (wraps_stripParens _) ha
  trimmed := trim_stripParens (Text.trim_trim text)
  unenclosed := unwrap?_eq_none_iff.1 (unwrap?_stripParens _)

lemma core_parentheses {text : List Char} (h : Matched isLeft isRight text) :
    core ('(' :: text ++ [')']) = core text := by
  have trimmed : Text.trim ('(' :: text ++ [')']) = '(' :: text ++ [')'] := by
    rw [Text.trim, Text.trimStart, List.cons_append, List.dropWhile_cons_of_neg (by decide),
      Text.trimEnd_eq_rdropWhile, ← List.cons_append, List.rdropWhile_concat_neg _ _ _ (by decide)]
  rw [core, trimmed, stripParens_of_some (unwrap?_eq_some_iff.2 ⟨rfl, h⟩)]

lemma core_of_wraps {c text : List Char} (h : Wraps c text) : core text = core c := by
  induction h with
  | bare => rfl
  | blanks hb _ ha ih => rw [core, Text.trim_pad hb ha]; exact ih
  | parentheses hm _ ih => rw [core_parentheses hm, ih]

lemma coreOf_iff {text c : List Char} : CoreOf text c ↔ c = core text := by
  constructor
  · rintro ⟨hw, ht, hu⟩
    rw [core_of_wraps hw, core, ht, stripParens_of_none (unwrap?_eq_none_iff.2 hu)]
  · rintro rfl
    exact coreOf_core text

end SceneDraw.Call
