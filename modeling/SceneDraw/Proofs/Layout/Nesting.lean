import Mathlib.Data.List.Infix
import SceneDraw.Proofs.Layout.Steps

namespace SceneDraw.Layout

def decoded (lines : List Line) : List Command := lines.filterMap (·.toOption.join)

def Covered (depth : Nat) (cs : List Command) : Prop :=
  ∀ pre, pre <+: cs → pre.count .closeNode ≤ depth + pre.count .openNode

def Nested (cs : List Command) : Prop :=
  (∀ pre, pre <+: cs → pre.count .closeNode ≤ pre.count .openNode) ∧
    cs.count .closeNode = cs.count .openNode

def bracket (body : List Line) : List Line :=
  .ok (some .openNode) :: (body ++ [.ok (some .closeNode)])

variable {a b cs : List Command} {c : Command} {depth : Nat} {lines : List Line}

lemma decoded_append (l₁ l₂ : List Line) : decoded (l₁ ++ l₂) = decoded l₁ ++ decoded l₂ :=
  List.filterMap_append

lemma Nested.covered (h : Nested cs) : Covered 0 cs := by simpa [Covered] using h.1

lemma Covered.of_open (h : Covered depth (.openNode :: cs)) : Covered (depth + 1) cs := by
  intro pre hp
  have := h (.openNode :: pre) (List.cons_prefix_cons.2 ⟨rfl, hp⟩)
  simp at this
  omega

lemma Covered.of_close (h : Covered depth (.closeNode :: cs)) :
    ∃ d, depth = d + 1 ∧ Covered d cs := by
  have hd := h [.closeNode] (List.cons_prefix_cons.2 ⟨rfl, List.nil_prefix⟩)
  simp at hd
  refine ⟨depth - 1, by omega, fun pre hp => ?_⟩
  have := h (.closeNode :: pre) (List.cons_prefix_cons.2 ⟨rfl, hp⟩)
  simp at this
  omega

lemma Covered.of_cons (ho : c ≠ .openNode) (hc : c ≠ .closeNode) (h : Covered depth (c :: cs)) :
    Covered depth cs := by
  intro pre hp
  have := h (c :: pre) (List.cons_prefix_cons.2 ⟨rfl, hp⟩)
  rwa [List.count_cons_of_ne hc, List.count_cons_of_ne ho] at this

lemma Covered.step {saved base : List Node} {sc : Scope} (h : Covered saved.length (c :: cs))
    (hs : sc.stack = saved ++ base) :
    (c = .closeNode → sc.stack ≠ []) ∧ ∃ saved', sc.stackAfter c = saved' ++ base ∧
      Covered saved'.length cs ∧
      saved'.length + [c].count .closeNode = saved.length + [c].count .openNode := by
  by_cases ho : c = .openNode
  · subst ho
    exact ⟨nofun, sc.node :: saved, by rw [Scope.stackAfter, hs]; rfl, h.of_open, by simp⟩
  by_cases hx : c = .closeNode
  · subst hx
    obtain ⟨d, hd, hc⟩ := h.of_close
    obtain ⟨n, saved, rfl⟩ := List.exists_cons_of_length_eq_add_one hd
    obtain rfl : saved.length = d := by simpa using hd
    exact ⟨fun _ => by simp [hs], saved, by rw [Scope.stackAfter, hs]; rfl, hc, by simp⟩
  · refine ⟨fun hc => absurd hc hx, saved, ?_, h.of_cons ho hx, ?_⟩
    · rw [sc.stackAfter_of_ne ho hx, hs]
    · simp [ho, hx]

lemma Nested.take (h : Nested cs) (n : Nat) :
    (cs.take n).count .closeNode ≤ (cs.take n).count .openNode :=
  h.1 _ (List.take_prefix n cs)

lemma nested_of_take (h : ∀ n, (cs.take n).count .closeNode ≤ (cs.take n).count .openNode)
    (hc : cs.count .closeNode = cs.count .openNode) : Nested cs :=
  ⟨fun pre hp => List.prefix_iff_eq_take.1 hp ▸ h pre.length, hc⟩

lemma Nested.nil : Nested [] := nested_of_take (by simp) rfl

lemma Nested.append (ha : Nested a) (hb : Nested b) : Nested (a ++ b) := by
  refine nested_of_take (fun n => ?_) (by simp [ha.2, hb.2])
  have h₁ := ha.take n
  have h₂ := hb.take (n - a.length)
  simp only [List.take_append, List.count_append]
  omega

lemma Nested.bracket (h : Nested cs) : Nested (.openNode :: cs ++ [.closeNode]) := by
  refine nested_of_take (fun n => ?_) (by simp [h.2])
  cases n with
  | zero => simp
  | succ n =>
    have h₁ := h.take n
    have h₂ : (([.closeNode] : List Command).take (n - cs.length)).count .closeNode ≤ 1 := by
      cases n - cs.length <;> simp
    simp [List.take_append]
    omega

lemma nested_singleton (ho : c ≠ .openNode) (hc : c ≠ .closeNode) : Nested [c] := by
  refine nested_of_take (fun n => ?_) (by simp [ho, hc])
  cases n <;> simp [ho, hc]

namespace Setting

variable {s : Setting} {branch : Branching} {name : String} {line : Nat} {p q : Scope × Walk}

lemma stack_of_covered {saved base : List Node} (h : s.steps branch name line lines p = .ok q)
    (hs : p.1.stack = saved ++ base) (hc : Covered saved.length (decoded lines)) :
    ∃ saved', q.1.stack = saved' ++ base ∧ saved'.length + (decoded lines).count .closeNode =
      saved.length + (decoded lines).count .openNode := by
  induction lines generalizing line p saved with
  | nil =>
    obtain rfl : p = q := Except.ok.inj h
    exact ⟨saved, hs, rfl⟩
  | cons l rest ih =>
    rcases l with e | _ | c
    · cases h
    · exact ih h hs hc
    · obtain ⟨p₁, h₁, h₂⟩ := ok_of_bind h
      obtain ⟨-, saved₁, hs₁, hc₁, hl₁⟩ := Covered.step (c := c) hc hs
      obtain ⟨saved', hq, hl⟩ := ih h₂ ((stack_of_exec h₁).trans hs₁) hc₁
      refine ⟨saved', hq, ?_⟩
      change _ + (c :: decoded rest).count _ = _ + (c :: decoded rest).count _
      rw [← List.singleton_append, List.count_append, List.count_append]
      omega

lemma stack_of_nested (h : s.steps branch name line lines p = .ok q)
    (hn : Nested (decoded lines)) : q.1.stack = p.1.stack := by
  have hs : p.1.stack = [] ++ p.1.stack := rfl
  obtain ⟨saved, hq, hl⟩ := stack_of_covered h hs hn.covered
  obtain rfl : saved = [] := List.eq_nil_of_length_eq_zero (by simpa [hn.2] using hl)
  exact hq

lemma steps_bracket {body : List Line} (h : s.steps branch name line (bracket body) p = .ok q)
    (hn : Nested (decoded body)) :
    ∃ r, s.steps branch name line (.ok (some .openNode) :: body) p = .ok r ∧
      q.1.stack = p.1.stack ∧
      q.1.node = if s.asymmetric then p.1.stack.head?.getD r.1.node else p.1.node := by
  rw [bracket, ← List.cons_append, steps_append] at h
  obtain ⟨r, hr, hc⟩ := ok_of_bind h
  obtain rfl : (r.1.closeNode s.asymmetric, r.2) = q := Except.ok.inj hc
  have hs : r.1.stack = p.1.node :: p.1.stack := stack_of_nested (p := (p.1.openNode, p.2)) hr hn
  refine ⟨r, hr, ?_⟩
  simp only [Scope.closeNode, hs]
  split <;> exact ⟨rfl, rfl⟩

/--
The node `n` is saved on top of `rest`: by the latest open command that is not closed yet, or as the
entry node if all are closed.
-/
def Saved (s : Setting) (branch : Branching) (name : String) (entry : Node) (w : Walk)
    (before : List Line) (n : Node) (rest : List Node) : Prop :=
  (Nested (decoded before) ∧ n = entry ∧ rest = []) ∨
    ∃ pre mid r, before = pre ++ .ok (some .openNode) :: mid ∧ Nested (decoded mid) ∧
      s.steps branch name 0 pre (.enter entry, w) = .ok r ∧ n = r.1.node ∧ rest = r.1.stack

variable {entry n : Node} {w : Walk} {before : List Line} {rest : List Node}

lemma Saved.append (h : s.Saved branch name entry w before n rest)
    (hl : Nested (decoded lines)) : s.Saved branch name entry w (before ++ lines) n rest := by
  obtain ⟨hb, hr⟩ | ⟨pre, mid, r, rfl, hm, hr⟩ := h
  · exact .inl ⟨decoded_append _ _ ▸ hb.append hl, hr⟩
  · exact .inr ⟨pre, mid ++ lines, r, by simp, decoded_append _ _ ▸ hm.append hl, hr⟩

lemma saved_of_steps (h : s.steps branch name 0 before (.enter entry, w) = .ok p)
    (hs : p.1.stack = n :: rest) : s.Saved branch name entry w before n rest := by
  induction hl : before.length using Nat.strong_induction_on generalizing before p n rest with
  | _ k ih =>
    subst hl
    obtain rfl | ⟨init, l, rfl⟩ := before.eq_nil_or_concat'
    · obtain rfl : (Scope.enter entry, w) = p := Except.ok.inj h
      obtain ⟨rfl, rfl⟩ : entry = n ∧ [] = rest := by simpa [Scope.enter] using hs
      exact .inl ⟨.nil, rfl, rfl⟩
    rw [steps_append] at h
    obtain ⟨p₁, h₁, h⟩ := ok_of_bind h
    have hinit {n rest} (hs₁ : p₁.1.stack = n :: rest) : s.Saved branch name entry w init n rest :=
      ih init.length (by simp) h₁ hs₁ rfl
    rcases l with e | _ | c
    · cases h
    · obtain rfl : p₁ = p := Except.ok.inj h
      exact (hinit hs).append .nil
    obtain ⟨p₂, h₂, h⟩ := ok_of_bind h
    obtain rfl : p₂ = p := Except.ok.inj h
    have hs₁ := stack_of_exec h₂
    rw [hs] at hs₁
    by_cases ho : c = .openNode
    · subst ho
      obtain ⟨rfl, rfl⟩ := List.cons.inj hs₁
      exact .inr ⟨init, [], p₁, rfl, .nil, h₁, rfl, rfl⟩
    by_cases hx : c = .closeNode
    · -- What lies below a node that is given up was saved before that node.
      subst hx
      obtain ⟨m, hm⟩ : ∃ m, p₁.1.stack = m :: n :: rest := by
        cases hp : p₁.1.stack <;> simp_all [Scope.stackAfter]
      obtain ⟨-, -, he⟩ | ⟨pre, mid, r, rfl, hmid, hr, -, hst⟩ := hinit hm
      · cases he
      have hb : Nested (decoded (bracket mid)) := by
        rw [bracket, ← List.cons_append, decoded_append]
        exact hmid.bracket
      have hpre : s.Saved branch name entry w pre n rest := ih pre.length (by simp) hr hst.symm rfl
      simpa [bracket] using hpre.append hb
    · rw [p₁.1.stackAfter_of_ne ho hx] at hs₁
      exact (hinit hs₁.symm).append (nested_singleton ho hx)

end Setting

section

variable {s : Setting} {root : String} {room : Nat} {path : List String} {name : String}
  {entry : Node} {w : Walk} {before body : List Line} {p q : Scope × Walk}

/--
A bracket leaves the stack as it was. It also leaves the node as it was, unless the root is
asymmetric: then the node is the one at the latest open command that is not closed yet, or the entry
node if all are closed. An unmatched close command may have used up the entry node; then the node is
what the body made of it.
-/
theorem bracket_restores (hroot : s.asymmetric = s.options.asymmetricLayouts.contains root)
    (hp : s.steps (s.branching room path) name 0 before (.enter entry, w) = .ok p)
    (hn : Nested (decoded body))
    (hq : s.steps (s.branching room path) name before.length (bracket body) p = .ok q) :
    q.1.stack = p.1.stack ∧
      (s.options.asymmetricLayouts.contains root = false → q.1.node = p.1.node) ∧
      (s.options.asymmetricLayouts.contains root = true →
        (∀ pre mid, before = pre ++ .ok (some .openNode) :: mid → Nested (decoded mid) →
          ∃ r, s.steps (s.branching room path) name 0 pre (.enter entry, w) = .ok r ∧
            q.1.node = r.1.node) ∧
        (Nested (decoded before) → q.1.node = entry) ∧
        (¬ Nested (decoded before) →
          (∀ pre mid, before = pre ++ .ok (some .openNode) :: mid → ¬ Nested (decoded mid)) →
          ∃ r, s.steps (s.branching room path) name before.length (.ok (some .openNode) :: body) p =
            .ok r ∧ q.1.node = r.1.node)) := by
  obtain ⟨r, hr, hs, hnode⟩ := Setting.steps_bracket hq hn
  rw [hroot] at hnode
  refine ⟨hs, fun ha => ?_, fun ha => ⟨?_, ?_, ?_⟩⟩
  · rw [hnode, if_neg (by simp [ha])]
  · rintro pre mid rfl hm
    rw [Setting.steps_append] at hp
    obtain ⟨r₀, hr₀, hmid⟩ := ok_of_bind hp
    have hst := Setting.stack_of_nested (p := (r₀.1.openNode, r₀.2)) hmid hm
    refine ⟨r₀, hr₀, ?_⟩
    rw [hnode, if_pos ha, hst]
    rfl
  · intro hb
    rw [hnode, if_pos ha, Setting.stack_of_nested hp hb]
    rfl
  · intro hb hopen
    have hst : p.1.stack = [] := by
      by_contra hne
      obtain ⟨n, rest, hst⟩ := List.exists_cons_of_ne_nil hne
      obtain ⟨hb', -⟩ | ⟨pre, mid, -, he, hm, -⟩ := Setting.saved_of_steps hp hst
      · exact hb hb'
      · exact hopen pre mid he hm
    refine ⟨r, hr, ?_⟩
    rw [hnode, if_pos ha, hst]
    rfl

end

def Setting.bare (root : String) : Setting where
  script name := .error (.missingLayout name)
  options := {}
  asymmetric := Options.asymmetricLayouts {} |>.contains root

theorem bracket_restores_open_node :
    let s := Setting.bare "bowser_geo"
    let run := s.steps (s.branching 63 []) "bowser_geo"
    let before : List Line := [.zBuffer false, .openNode, .billboard].map (.ok ∘ some)
    let body : List Line :=
      [.openNode, .zBuffer true, .closeNode, .branch "a" true].map (.ok ∘ some)
    ∃ p q, run 0 before (.enter .root, { playhead := none }) = .ok p ∧ Nested (decoded body) ∧
      run before.length (bracket body) p = .ok q ∧ q.1.stack = p.1.stack ∧
      p.1.node = { Node.root with zBuffer := false, billboard := true } ∧
      q.1.node = { Node.root with zBuffer := false } := by
  intro s run before body
  obtain ⟨p, hp⟩ : ∃ p, run 0 before (.enter .root, { playhead := none }) = .ok p := ⟨_, rfl⟩
  obtain ⟨q, hq⟩ : ∃ q, run before.length (bracket body) p = .ok q := by
    obtain rfl := Except.ok.inj hp
    exact ⟨_, rfl⟩
  have hn : Nested (decoded body) :=
    .append (.bracket (nested_singleton (c := .zBuffer true) (by decide) (by decide)))
      (nested_singleton (c := .branch "a" true) (by decide) (by decide))
  have hroot : s.asymmetric = s.options.asymmetricLayouts.contains "bowser_geo" := rfl
  obtain ⟨hs, -, ha⟩ := bracket_restores hroot hp hn hq
  obtain ⟨r, hr, hnode⟩ := (ha (by decide)).1 [.ok (some (.zBuffer false))]
    [.ok (some .billboard)] rfl (nested_singleton (by decide) (by decide))
  refine ⟨p, q, hp, hn, hq, hs, ?_, ?_⟩
  · obtain rfl := Except.ok.inj hp
    rfl
  · obtain rfl := Except.ok.inj hr
    exact hnode

theorem node_of_unmatched_close :
    let s := Setting.bare "bowser_geo"
    let run := s.steps (s.branching 63 []) "bowser_geo"
    let before : List Line := [.ok (some .closeNode)]
    let body : List Line := [.ok (some (.zBuffer false))]
    s.asymmetric = true ∧ Nested (decoded body) ∧
      (∀ pre mid, before = pre ++ .ok (some .openNode) :: mid → ¬ Nested (decoded mid)) ∧
      ∃ p q, run 0 before (.enter .root, { playhead := none }) = .ok p ∧
        run before.length (bracket body) p = .ok q ∧ q.1.node ≠ .root := by
  refine ⟨by decide, nested_singleton (by decide) (by decide), ?_, _, _, rfl, rfl, by decide⟩
  rintro (_ | ⟨l, pre⟩) mid h <;> simp at h

end SceneDraw.Layout
