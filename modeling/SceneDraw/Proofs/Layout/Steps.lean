import Mathlib.Tactic.Lemma
import SceneDraw.Layout.Run

namespace SceneDraw.Layout

abbrev Branching := String → Node → Walk → Outcome

abbrev Reached := Except (Stopped Error) (Scope × Walk)

def Scope.pass (sc : Scope) (c : Command) : Scope :=
  if c.isCase then { sc with switch := sc.switch.advance } else sc

namespace Setting

variable (s : Setting)

def visit (branch : Branching) (sc : Scope) (w : Walk) : Command → Outcome
  | .branch layout _ => if s.isNull layout then .ok w else branch layout sc.branchNode w
  | _ => .ok w

def exec (branch : Branching) (p : Scope × Walk) (c : Command) : Reached :=
  if c.isCase && !p.1.switch.isOpen then .ok (p.1.pass c, p.2)
  else do
    let (sc, w) := s.perform p.1 p.2 c
    let w ← s.visit branch sc w c
    return (sc.pass c, w)

def steps (branch : Branching) (name : String) : Nat → List Line → Scope × Walk → Reached
  | _, [], p => .ok p
  | line, .error e :: _, p => p.2.stop (.decode name line e)
  | line, .ok none :: rest, p => steps branch name (line + 1) rest p
  | line, .ok (some c) :: rest, p => s.exec branch p c >>= steps branch name (line + 1) rest

def branching (room : Nat) (path : List String) : Branching := s.follow (s.runLayout room path)

variable {s} {branch : Branching} {name : String} {line : Nat} {p q : Scope × Walk} {c : Command}

lemma runLines_cons (branch : Branching) (name : String) (line : Nat) (c : Command)
    (rest : List Line) (sc : Scope) (w : Walk) :
    s.runLines branch name line (.ok (some c) :: rest) sc w =
      s.exec branch (sc, w) c >>= fun p => s.runLines branch name (line + 1) rest p.1 p.2 := by
  rw [runLines, exec]
  split
  · have hc : c.isCase = true := by simp_all
    simp [Scope.pass, hc, bind, Except.bind]
  · cases c with
    | branch layout link =>
      simp only [perform, visit]
      split
      · rfl
      · cases branch layout sc.branchNode w <;> rfl
    | _ => rfl

lemma runLines_eq_steps (branch : Branching) (name : String) (line : Nat) (script : List Line)
    (p : Scope × Walk) :
    s.runLines branch name line script p.1 p.2 =
      s.steps branch name line script p >>= fun p => .ok p.2 := by
  induction script generalizing line p with
  | nil => rfl
  | cons l rest ih =>
    rcases l with e | _ | c
    · rfl
    · exact ih _ _
    · rw [runLines_cons, steps, bind_assoc]
      exact bind_congr fun p => ih _ _

lemma steps_append (branch : Branching) (name : String) (line : Nat) (l₁ l₂ : List Line)
    (p : Scope × Walk) :
    s.steps branch name line (l₁ ++ l₂) p =
      s.steps branch name line l₁ p >>= s.steps branch name (line + l₁.length) l₂ := by
  induction l₁ generalizing line p with
  | nil => rfl
  | cons l rest ih =>
    have hl : line + 1 + rest.length = line + (rest.length + 1) := by omega
    rcases l with e | _ | c
    · rfl
    · simp only [List.cons_append, steps, ih, List.length_cons, hl]
    · simp only [List.cons_append, steps, List.length_cons, bind_assoc, ← hl]
      exact bind_congr fun p => ih _ _

lemma exec_cases (h : s.exec branch p c = .ok q) :
    (c.isCase ∧ p.1.switch.isOpen = false ∧ q = (p.1.pass c, p.2)) ∨
      (c.isCase → p.1.switch.isOpen) ∧ ∃ sc w w', s.perform p.1 p.2 c = (sc, w) ∧
        s.visit branch sc w c = .ok w' ∧ q = (sc.pass c, w') := by
  rw [exec] at h
  split at h
  · rename_i hc
    obtain ⟨hc, ho⟩ : c.isCase ∧ p.1.switch.isOpen = false := by simpa using hc
    exact .inl ⟨hc, ho, (Except.ok.inj h).symm⟩
  · rename_i hc
    obtain ⟨w', hw, h⟩ := ok_of_bind h
    exact .inr ⟨by simpa using hc, _, _, w', rfl, hw, (Except.ok.inj h).symm⟩

lemma exec_map (f : Scope → Scope)
    (hf : ∀ sc sw, f { sc with switch := sw } = { f sc with switch := sw }) {sc : Scope} {w : Walk}
    (hp : s.perform (f sc) w c = (f (s.perform sc w c).1, (s.perform sc w c).2))
    (hv : ∀ sc w, s.visit branch (f sc) w c = s.visit branch sc w c) :
    s.exec branch (f sc, w) c = (fun p => (f p.1, p.2)) <$> s.exec branch (sc, w) c := by
  have hs (sc : Scope) : (f sc).switch = sc.switch := by
    have h : f sc = { f sc with switch := sc.switch } := hf sc sc.switch
    rw [h]
  have hpass (sc : Scope) : (f sc).pass c = f (sc.pass c) := by
    rw [Scope.pass, Scope.pass, hs]
    split
    · exact (hf sc _).symm
    · rfl
  rw [exec, exec, hs]
  split
  · exact congrArg (fun sc => Except.ok (sc, w)) (hpass sc)
  · simp only [hp, hv, hpass, map_bind, map_pure]

end Setting

/--
A relation of runs that is kept by going on. It holds of the two runs of a layout's lines if it holds
of the runs of the layouts that these branch to.
-/
structure Parametric (R : (α : Type) → Except (Stopped Error) α → Except (Stopped Error) α → Prop) :
    Prop where
  ok {α : Type} (a : α) : R α (.ok a) (.ok a)
  decode {α : Type} (w : Walk) (name : String) (line : Nat) (e : ParseError) :
    R α (w.stop (.decode name line e)) (w.stop (.decode name line e))
  bind {α β : Type} {a b : Except (Stopped Error) α} {f g : α → Except (Stopped Error) β} :
    R α a b → (∀ x, R β (f x) (g x)) → R β (a >>= f) (b >>= g)

namespace Parametric

variable {R : (α : Type) → Except (Stopped Error) α → Except (Stopped Error) α → Prop}
  {s : Setting} {branch branch' : Branching}

lemma visit (hR : Parametric R)
    (hb : ∀ layout node w, R Walk (branch layout node w) (branch' layout node w)) (sc : Scope)
    (w : Walk) (c : Command) : R Walk (s.visit branch sc w c) (s.visit branch' sc w c) := by
  cases c with
  | branch layout link =>
    rw [Setting.visit, Setting.visit]
    split
    · exact hR.ok w
    · exact hb _ _ _
  | _ => exact hR.ok w

lemma exec (hR : Parametric R)
    (hb : ∀ layout node w, R Walk (branch layout node w) (branch' layout node w)) (p : Scope × Walk)
    (c : Command) : R (Scope × Walk) (s.exec branch p c) (s.exec branch' p c) := by
  rw [Setting.exec, Setting.exec]
  split
  · exact hR.ok _
  · exact hR.bind (hR.visit hb _ _ _) fun _ => hR.ok _

lemma runLines (hR : Parametric R)
    (hb : ∀ layout node w, R Walk (branch layout node w) (branch' layout node w)) (name : String)
    (line : Nat) (script : List Line) (sc : Scope) (w : Walk) :
    R Walk (s.runLines branch name line script sc w) (s.runLines branch' name line script sc w) := by
  induction script generalizing line sc w with
  | nil => exact hR.ok w
  | cons l rest ih =>
    rcases l with e | _ | c
    · exact hR.decode w name line e
    · exact ih _ _ _
    · rw [Setting.runLines_cons, Setting.runLines_cons]
      exact hR.bind (hR.exec hb _ _) fun p => ih _ _ _

end Parametric

namespace Setting

variable {s s' : Setting}

lemma exec_congr (ho : ∃ maxDepth policy, s'.options = { s.options with maxDepth, policy })
    (ha : s'.asymmetric = s.asymmetric) (branch : Branching) : s'.exec branch = s.exec branch := by
  obtain ⟨script', options', asymmetric'⟩ := s'
  obtain ⟨maxDepth, policy, rfl⟩ := ho
  obtain rfl := ha
  have hperform (sc : Scope) (w : Walk) (c : Command) :
      perform ⟨script', { s.options with maxDepth, policy }, s.asymmetric⟩ sc w c =
        s.perform sc w c := by
    cases c <;> rfl
  have hvisit (sc : Scope) (w : Walk) (c : Command) :
      visit ⟨script', { s.options with maxDepth, policy }, s.asymmetric⟩ branch sc w c =
        s.visit branch sc w c := by
    cases c <;> rfl
  funext p c
  simp only [exec, hperform, hvisit]

lemma runLines_congr (ho : ∃ maxDepth policy, s'.options = { s.options with maxDepth, policy })
    (ha : s'.asymmetric = s.asymmetric) (branch : Branching) (name : String) (line : Nat)
    (lines : List Line) (sc : Scope) (w : Walk) :
    s'.runLines branch name line lines sc w = s.runLines branch name line lines sc w := by
  induction lines generalizing line sc w with
  | nil => rfl
  | cons l rest ih =>
    rcases l with e | _ | c
    · rfl
    · exact ih _ _ _
    · rw [runLines_cons, runLines_cons, exec_congr ho ha]
      exact bind_congr fun p => ih _ _ _

end Setting

def Scope.stackAfter (sc : Scope) : Command → List Node
  | .openNode => sc.node :: sc.stack
  | .closeNode => sc.stack.tail
  | _ => sc.stack

@[simp] lemma Scope.stack_pass (sc : Scope) (c : Command) : (sc.pass c).stack = sc.stack := by
  rw [pass]
  split <;> rfl

lemma Scope.stackAfter_of_isCase (sc : Scope) {c : Command} (h : c.isCase) :
    sc.stackAfter c = sc.stack := by
  cases c with
  | openNode => cases h
  | closeNode => cases h
  | _ => rfl

lemma Scope.stackAfter_of_ne (sc : Scope) {c : Command} (ho : c ≠ .openNode)
    (hc : c ≠ .closeNode) : sc.stackAfter c = sc.stack := by
  cases c with
  | openNode => contradiction
  | closeNode => contradiction
  | _ => rfl

namespace Setting

variable {s : Setting} {branch : Branching} {name : String} {line : Nat} {p q : Scope × Walk}
  {c : Command}

lemma stack_perform (s : Setting) (sc : Scope) (w : Walk) (c : Command) :
    (s.perform sc w c).1.stack = sc.stackAfter c := by
  cases c with
  | closeNode =>
    cases hs : sc.stack with
    | nil => simp [perform, Scope.closeNode, Scope.stackAfter, hs]
    | cons top rest =>
      simp only [perform, Scope.closeNode, Scope.stackAfter, hs]
      split <;> rfl
  | switchCase count selector =>
    rw [perform]
    split <;> rfl
  | animatedPart layer offset list =>
    rw [perform]
    split <;> rfl
  | _ => rfl

lemma stack_of_exec (h : s.exec branch p c = .ok q) : q.1.stack = p.1.stackAfter c := by
  obtain ⟨hc, -, rfl⟩ | ⟨-, sc, w, w', hp, -, rfl⟩ := exec_cases h
  · exact (p.1.stack_pass c).trans (p.1.stackAfter_of_isCase hc).symm
  · have hs := s.stack_perform p.1 p.2 c
    rw [hp] at hs
    exact (sc.stack_pass c).trans hs

end Setting

def Decodes (lines : List Line) (cs : List Command) : Prop :=
  ∃ found : List (Option Command), lines = found.map .ok ∧ cs = found.reduceOption

namespace Setting

variable {s : Setting} {branch : Branching} {name : String} {line : Nat} {p q : Scope × Walk}

lemma steps_of_decodes {lines : List Line} {cs : List Command} (h : Decodes lines cs) :
    s.steps branch name line lines p = cs.foldlM (s.exec branch) p := by
  obtain ⟨found, rfl, rfl⟩ := h
  induction found generalizing line p with
  | nil => rfl
  | cons o found ih =>
    cases o with
    | none => exact ih
    | some c => exact bind_congr fun p => ih

end Setting

end SceneDraw.Layout
