import Mathlib.Algebra.Group.Nat.Defs
import Mathlib.Tactic.Lemma
import SceneDraw.Log
import SceneDraw.Source.Store

/-! Runs that go on from state to state until they end with a result. The state that comes next is
settled by the one before, so a run passes the same states and ends in the same way each time. It
ends if a measure of its states decreases with each step. Two runs end alike if each step of one is
matched by some steps of the other. -/

namespace SceneDraw

inductive Next (σ ρ : Type)
  | goesOn (state : σ)
  | ends (result : ρ)

abbrev Stepper (σ ρ : Type) := σ → Next σ ρ

inductive Next.Does {σ ε ρ : Type} (moves : σ → Prop) (fails : ε → Prop) :
    Next σ (Except (Stopped ε) ρ) → Prop
  | move {c : σ} : moves c → Does moves fails (.goesOn c)
  | fail {e : ε} (log : Log) : fails e → Does moves fails (.ends (.error ⟨e, log⟩))
  | done (r : ρ) : Does moves fails (.ends (.ok r))

namespace Next.Does

variable {σ ε ρ : Type} {moves moves' : σ → Prop} {fails fails' : ε → Prop}
  {p : Next σ (Except (Stopped ε) ρ)}

lemma imp (h : p.Does moves fails) (hm : ∀ c, moves c → moves' c) (hf : ∀ e, fails e → fails' e) :
    p.Does moves' fails' := by
  cases h with
  | move h => exact .move (hm _ h)
  | fail log h => exact .fail log (hf _ h)
  | done r => exact .done r

lemma of_goesOn {c : σ} (h : p.Does moves fails) (hp : p = .goesOn c) : moves c := by
  subst hp
  cases h with
  | move h => exact h

lemma of_error {e : ε} {log : Log} (h : p.Does moves fails) (hp : p = .ends (.error ⟨e, log⟩)) :
    fails e := by
  subst hp
  cases h with
  | fail _ h => exact h

end Next.Does

namespace Stepper

section

variable {σ ρ : Type} (next : Stepper σ ρ)

def after : Nat → Next σ ρ → Next σ ρ
  | 0, p => p
  | n + 1, .goesOn c => after n (next c)
  | _ + 1, .ends r => .ends r

def Passes (p : Next σ ρ) (c : σ) : Prop := ∃ n, next.after n p = .goesOn c

def Ends (p : Next σ ρ) (r : ρ) : Prop := ∃ n, next.after n p = .ends r

variable {next} {p : Next σ ρ} {c c' : σ} {r r' : ρ}

lemma after_ends (n : Nat) (r : ρ) : next.after n (.ends r) = .ends r := by
  cases n <;> rfl

lemma after_add (m n : Nat) (p : Next σ ρ) :
    next.after (m + n) p = next.after n (next.after m p) := by
  induction m generalizing p with
  | zero => rw [Nat.zero_add, after]
  | succ m ih =>
    rw [Nat.add_right_comm]
    cases p with
    | goesOn c => exact ih (next c)
    | ends r => rw [after_ends, after_ends, after_ends]

lemma Passes.refl (c : σ) : next.Passes (.goesOn c) c := ⟨0, rfl⟩

lemma Passes.of_next (h : next.Passes (next c) c') : next.Passes (.goesOn c) c' := by
  obtain ⟨n, h⟩ := h
  exact ⟨n + 1, h⟩

lemma Passes.trans (h : next.Passes p c) (h' : next.Passes (.goesOn c) c') : next.Passes p c' := by
  obtain ⟨m, h⟩ := h
  obtain ⟨n, h'⟩ := h'
  exact ⟨m + n, by rw [after_add, h, h']⟩

lemma Passes.goOn (h : next.Passes p c) (h' : next c = .goesOn c') : next.Passes p c' :=
  h.trans (.of_next (h' ▸ .refl c'))

lemma Passes.ends (h : next.Passes p c) (h' : next.Ends (.goesOn c) r) : next.Ends p r := by
  obtain ⟨m, h⟩ := h
  obtain ⟨n, h'⟩ := h'
  exact ⟨m + n, by rw [after_add, h, h']⟩

lemma Passes.induction {P : σ → Prop} (h : next.Passes p c) (init : ∀ c, p = .goesOn c → P c)
    (step : ∀ c c', P c → next c = .goesOn c' → P c') : P c := by
  obtain ⟨n, h⟩ := h
  induction n generalizing p with
  | zero => exact init c h
  | succ n ih =>
    cases p with
    | goesOn c₀ => exact ih (fun c₁ h₁ => step c₀ c₁ (init c₀ rfl) h₁) h
    | ends r => cases h

lemma Passes.eq_or_goesOn (h : next.Passes p c) :
    p = .goesOn c ∨ ∃ c₀, next.Passes p c₀ ∧ next c₀ = .goesOn c := by
  obtain ⟨n, h⟩ := h
  cases n with
  | zero => exact .inl h
  | succ n =>
    rw [after_add] at h
    cases hp : next.after n p with
    | goesOn c₀ =>
      rw [hp] at h
      exact .inr ⟨c₀, ⟨n, hp⟩, h⟩
    | ends r =>
      rw [hp] at h
      cases h

lemma Passes.eq_or_of_next (h : next.Passes (.goesOn c) c') :
    c = c' ∨ next.Passes (next c) c' := by
  obtain ⟨n, h⟩ := h
  cases n with
  | zero => exact .inl (Next.goesOn.inj h)
  | succ n => exact .inr ⟨n, h⟩

lemma Passes.to_last (h : next.Passes p c) (hr : next c = .ends r) (h' : next.Passes p c') :
    next.Passes (.goesOn c') c := by
  obtain ⟨m, h⟩ := h
  obtain ⟨n, h'⟩ := h'
  -- Nothing comes after the last state, so the other one is not later.
  obtain ⟨k, rfl⟩ | ⟨k, rfl⟩ : (∃ k, m = n + k) ∨ ∃ k, n = m + (k + 1) := by
    obtain hle | hlt := Nat.lt_or_ge m n
    · exact .inr ⟨n - m - 1, by omega⟩
    · exact .inl ⟨m - n, by omega⟩
  · rw [after_add, h'] at h
    exact ⟨k, h⟩
  · rw [after_add, h, after, hr, after_ends] at h'
    cases h'

lemma Ends.of_next (h : next.Ends (next c) r) : next.Ends (.goesOn c) r := by
  obtain ⟨n, h⟩ := h
  exact ⟨n + 1, h⟩

lemma Ends.unique (h : next.Ends p r) (h' : next.Ends p r') : r = r' := by
  obtain ⟨m, h⟩ := h
  obtain ⟨n, h'⟩ := h'
  have hr : next.after (m + n) p = .ends r := by rw [after_add, h, after_ends]
  have hr' : next.after (m + n) p = .ends r' := by
    rw [Nat.add_comm, after_add, h', after_ends]
  exact Next.ends.inj (hr.symm.trans hr')

lemma ends_iff : next.Ends p r ↔ p = .ends r ∨ ∃ c, next.Passes p c ∧ next c = .ends r := by
  constructor
  · rintro ⟨n, h⟩
    induction n generalizing p with
    | zero => exact .inl h
    | succ n ih =>
      cases p with
      | goesOn c =>
        obtain h | ⟨c', hc, h⟩ := ih h
        · exact .inr ⟨c, .refl c, h⟩
        · exact .inr ⟨c', .of_next hc, h⟩
      | ends r' => exact .inl h
  · rintro (rfl | ⟨c, hc, h⟩)
    · exact ⟨0, rfl⟩
    · exact hc.ends ⟨1, h⟩

lemma ends_after (Inv : σ → Prop) (measure : σ → Nat)
    (step : ∀ c c', Inv c → next c = .goesOn c' → Inv c' ∧ measure c' < measure c) {n : Nat}
    (hc : Inv c) (hn : measure c < n) : ∃ r, next.after n (.goesOn c) = .ends r := by
  induction n generalizing c with
  | zero => exact absurd hn (Nat.not_lt_zero _)
  | succ n ih =>
    rw [after]
    cases h : next c with
    | goesOn c' =>
      obtain ⟨hc', hlt⟩ := step c c' hc h
      exact ih hc' (Nat.lt_of_lt_of_le hlt (Nat.le_of_lt_succ hn))
    | ends r => exact ⟨r, after_ends n r⟩

lemma Ends.within (h : next.Ends p r) (Inv : σ → Prop) (measure : σ → Nat)
    (step : ∀ c c', Inv c → next c = .goesOn c' → Inv c' ∧ measure c' < measure c) {n : Nat}
    (start : ∀ c, p = .goesOn c → Inv c ∧ measure c < n) : next.after n p = .ends r := by
  cases p with
  | goesOn c =>
    obtain ⟨hc, hn⟩ := start c rfl
    obtain ⟨r', h'⟩ := ends_after Inv measure step hc hn
    rw [h', h.unique ⟨n, h'⟩]
  | ends r' => rw [after_ends, h.unique ⟨0, rfl⟩]

def checks (next : Stepper σ ρ) (check : σ → Bool) : Nat → Next σ ρ → Bool
  | _, .ends _ => true
  | 0, .goesOn _ => false
  | n + 1, .goesOn c => check c && checks next check n (next c)

lemma Passes.of_checks {check : σ → Bool} {n : Nat} {c : σ} (h : next.checks check n p = true)
    (hc : next.Passes p c) : check c = true := by
  obtain ⟨k, hk⟩ := hc
  induction k generalizing p n with
  | zero =>
    obtain rfl : p = .goesOn c := hk
    cases n with
    | zero => cases h
    | succ n => exact (Bool.and_eq_true_iff.1 h).1
  | succ k ih =>
    cases p with
    | goesOn c₀ =>
      cases n with
      | zero => cases h
      | succ n => exact ih (Bool.and_eq_true_iff.1 h).2 hk
    | ends r => cases hk

end

section

variable {σ σ' ρ ρ' : Type} {next : Stepper σ ρ} {next' : Stepper σ' ρ'} {R : σ → σ' → Prop}
  {Q : ρ → ρ' → Prop} {p : Next σ ρ} {p' : Next σ' ρ'} {r : ρ}

/-- The second run comes to a state that is related to that of the first, or ends as it does. -/
inductive Follows (next' : Stepper σ' ρ') (R : σ → σ' → Prop) (Q : ρ → ρ' → Prop) :
    Next σ ρ → Next σ' ρ' → Prop
  | goesOn {c : σ} {d : σ'} {p' : Next σ' ρ'} : R c d → next'.Passes p' d →
      Follows next' R Q (.goesOn c) p'
  | ends {r : ρ} {r' : ρ'} {p' : Next σ' ρ'} : Q r r' → next'.Ends p' r' →
      Follows next' R Q (.ends r) p'

lemma Follows.both {c : σ} {d : σ'} (h : R c d) : next'.Follows R Q (.goesOn c) (.goesOn d) :=
  .goesOn h (.refl d)

lemma Follows.last {r : ρ} {r' : ρ'} (h : Q r r') : next'.Follows R Q (.ends r) (.ends r') :=
  .ends h ⟨0, rfl⟩

lemma Follows.of_next {d : σ'} (h : next'.Follows R Q p (next' d)) :
    next'.Follows R Q p (.goesOn d) := by
  cases h with
  | goesOn hR hp => exact .goesOn hR (.of_next hp)
  | ends hQ he => exact .ends hQ (.of_next he)

lemma Ends.followed (h : next.Ends p r) (start : next'.Follows R Q p p')
    (step : ∀ c d, next.Passes p c → R c d → next'.Follows R Q (next c) (.goesOn d)) :
    ∃ r', next'.Ends p' r' ∧ Q r r' := by
  obtain rfl | ⟨c, hc, hr⟩ := ends_iff.1 h
  · cases start with
    | ends hQ he => exact ⟨_, he, hQ⟩
  -- A step may use that its state is passed, so the induction has to carry that too.
  have hreach : next.Passes p c ∧ ∃ d, next'.Passes p' d ∧ R c d := by
    refine hc.induction (P := fun c => next.Passes p c ∧ ∃ d, next'.Passes p' d ∧ R c d) ?_ ?_
    · rintro c rfl
      cases start with
      | goesOn hR hp => exact ⟨.refl c, _, hp, hR⟩
    · rintro c c' ⟨hp, d, hd, hR⟩ hn
      have hstep := step c d hp hR
      rw [hn] at hstep
      cases hstep with
      | goesOn hR' hp' => exact ⟨hp.goOn hn, _, hd.trans hp', hR'⟩
  obtain ⟨-, d, hd, hR⟩ := hreach
  have hlast := step c d hc hR
  rw [hr] at hlast
  cases hlast with
  | ends hQ he => exact ⟨_, hd.ends he, hQ⟩

end

section

variable {σ ε α β : Type}

lemma Ends.error_iff {next : Stepper σ (Except (Stopped ε) β)}
    {p : Next σ (Except (Stopped ε) β)} {r : Except (Stopped ε) β} {e : ε} (h : next.Ends p r) :
    (∃ log, r = .error ⟨e, log⟩) ↔ (∃ log, p = .ends (.error ⟨e, log⟩)) ∨
      ∃ c, next.Passes p c ∧ ∃ log, next c = .ends (.error ⟨e, log⟩) := by
  constructor
  · rintro ⟨log, rfl⟩
    obtain hp | ⟨c, hc, hn⟩ := ends_iff.1 h
    · exact .inl ⟨log, hp⟩
    · exact .inr ⟨c, hc, log, hn⟩
  · rintro (⟨log, hp⟩ | ⟨c, hc, log, hn⟩)
    · exact ⟨log, h.unique (ends_iff.2 (.inl hp))⟩
    · exact ⟨log, h.unique (ends_iff.2 (.inr ⟨c, hc, hn⟩))⟩

def Yields (next : Stepper σ (Except ε β)) (p : Next σ (Except ε β)) (r : Except ε α) (k : α → σ) :
    Prop :=
  match r with
  | .ok a => next.Passes p (k a)
  | .error e => next.Ends p (.error e)

namespace Yields

variable {next : Stepper σ (Except ε β)} {p : Next σ (Except ε β)} {c : σ} {k : α → σ}

lemma ok {a : α} (h : c = k a) : next.Yields (.goesOn c) (.ok a) k := h ▸ .refl c

lemma error (e : ε) : next.Yields (.ends (.error e)) (.error e) k := ⟨0, rfl⟩

lemma of_next {r : Except ε α} (h : next.Yields (next c) r k) : next.Yields (.goesOn c) r k := by
  cases r with
  | ok a => exact Passes.of_next h
  | error e => exact Ends.of_next h

lemma bind {γ : Type} {l : γ → σ} {r : Except ε α} {f : α → Except ε γ} (h : next.Yields p r k)
    (hf : ∀ a, next.Yields (.goesOn (k a)) (f a) l) : next.Yields p (r >>= f) l := by
  cases r with
  | ok a =>
    have ha := hf a
    change next.Yields p (f a) l
    cases hr : f a with
    | ok b =>
      rw [hr] at ha
      exact Passes.trans h ha
    | error e =>
      rw [hr] at ha
      exact Passes.ends h ha
  | error e => exact h

lemma ends {k : β → σ} {r : Except ε β} (h : next.Yields p r k)
    (hk : ∀ b, next (k b) = .ends (.ok b)) : next.Ends p r := by
  cases r with
  | ok b => exact Passes.ends h ⟨1, hk b⟩
  | error e => exact h

end Yields

end

end Stepper

/--
More than the steps that a stack of activations can still take, for the number of lines that are
left in each. At most `size` activations nest, and each has fewer lines than `base` at its start.
-/
def stackWeight (base size : Nat) : List Nat → Nat
  | [] => 0
  | n :: outer => n * (base ^ (size - outer.length) + 1) + 1 + stackWeight base size outer

section

variable {base size m n : Nat} {outer : List Nat}

lemma stackWeight_push (hsize : outer.length < size) (hbase : n + 2 ≤ base) :
    stackWeight base size (n :: outer) <
      base ^ (size - outer.length + 1) + stackWeight base size outer := by
  have hpow : base ≤ base ^ (size - outer.length) := Nat.le_self_pow (by omega) base
  have hmul : (n + 2) * base ^ (size - outer.length) ≤ base ^ (size - outer.length + 1) := by
    rw [Nat.pow_succ, Nat.mul_comm (base ^ _)]
    exact Nat.mul_le_mul_right _ hbase
  rw [Nat.add_mul] at hmul
  rw [stackWeight, Nat.mul_add]
  omega

lemma stackWeight_line (base size : Nat) (outer : List Nat) (h : m < n) :
    base ^ (size - outer.length) + stackWeight base size (m :: outer) <
      stackWeight base size (n :: outer) := by
  -- A line pays for itself and for all that the activation that it pushes can do.
  have hmul := Nat.mul_le_mul_right (base ^ (size - outer.length) + 1) h
  rw [Nat.succ_mul] at hmul
  rw [stackWeight, stackWeight]
  omega

lemma stackWeight_pop : stackWeight base size outer < stackWeight base size (n :: outer) := by
  rw [stackWeight]
  omega

end

def Sources.longest (s : Sources) (space : Namespace) : Nat :=
  (s.table space).entries.foldr (fun e n => max e.2.length n) 0

lemma Sources.length_le_longest {s : Sources} {space : Namespace} {name : String}
    {lines : List String} (h : (s.table space).find? name = some lines) :
    lines.length ≤ s.longest space := by
  have hlen (es : List (String × List String)) (hm : (name, lines) ∈ es) :
      lines.length ≤ es.foldr (fun e n => max e.2.length n) 0 := by
    induction es with
    | nil => cases hm
    | cons e es ih =>
      rw [List.foldr_cons]
      obtain rfl | hm := List.mem_cons.1 hm
      · exact Nat.le_max_left _ _
      · exact Nat.le_trans (ih hm) (Nat.le_max_right _ _)
  exact hlen _ (KeyMap.mem_of_find? h)

end SceneDraw
