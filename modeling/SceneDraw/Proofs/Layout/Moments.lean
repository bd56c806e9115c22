import Mathlib.Tactic.SplitIfs
import SceneDraw.Proofs.Layout.Branching

/-! The moments of a run: each is about to perform a command, in a layout and the layouts that lead
there. Commands that a switch passes over have no moment. What holds of single moments, and is kept
when runs are put together, holds of a run that is not stopped. -/

namespace SceneDraw.Layout

def Node.turn (n : Node) (m : Matrix) : Node := { n with transform := n.transform * m }

/-- `path` has the layout of the command first and the root last. -/
structure Moment where
  path : List String
  line : Nat
  scope : Scope
  walk : Walk
  command : Command

abbrev Recording := String → Node → Walk → List Moment

namespace Setting

variable (s : Setting)

def momentsWithin (record : Recording) (sc : Scope) (w : Walk) : Command → List Moment
  | .branch layout _ => if s.isNull layout then [] else record layout sc.branchNode w
  | _ => []

def momentsAt (record : Recording) (path : List String) (line : Nat) (p : Scope × Walk)
    (c : Command) : List Moment :=
  if c.isCase && !p.1.switch.isOpen then []
  else ⟨path, line, p.1, p.2, c⟩ :: s.momentsWithin record p.1 p.2 c

def momentsFrom (branch : Branching) (record : Recording) (path : List String) :
    Nat → List Line → Scope × Walk → List Moment
  | line, .ok (some c) :: rest, p =>
    s.momentsAt record path line p c ++
      match s.exec branch p c with
      | .ok q => momentsFrom branch record path (line + 1) rest q
      | .error _ => []
  | line, .ok none :: rest, p => momentsFrom branch record path (line + 1) rest p
  | _, _, _ => []

def recording : Nat → List String → Recording
  | 0, _, _, _, _ => []
  | room + 1, path, layout, node, w =>
    match s.script layout with
    | .error _ => []
    | .ok script =>
      if layout ∈ path then []
      else
        s.momentsFrom (s.branching room (layout :: path)) (recording room (layout :: path))
          (layout :: path) 0 script (.enter node, w)

def moments (root : String) (playhead : Option Playhead) : List Moment :=
  s.recording s.options.maxDepth [] root .root { playhead }

end Setting

structure Setting.Lasting (s : Setting) (R : Walk → List Moment → Walk → Prop) : Prop where
  nil : ∀ w log, R w [] { w with log }
  append : ∀ w ms w' ms' w'', R w ms w' → R w' ms' w'' → R w (ms ++ ms') w''
  perform : ∀ path line sc w c, R w [⟨path, line, sc, w, c⟩] (s.perform sc w c).2

namespace Setting

variable {s : Setting} {R : Walk → List Moment → Walk → Prop} {branch : Branching}
  {record : Recording} {path : List String} {name : String} {line : Nat} {p q : Scope × Walk}
  {c : Command} {lines : List Line}

lemma Lasting.exec (hR : s.Lasting R)
    (hb : ∀ layout node w w', branch layout node w = .ok w' → R w (record layout node w) w')
    (h : s.exec branch p c = .ok q) : R p.2 (s.momentsAt record path line p c) q.2 := by
  rw [momentsAt]
  obtain ⟨hc, ho, rfl⟩ | ⟨ho, sc, w, w', hp, hv, rfl⟩ := exec_cases h
  · rw [if_pos (by simp [hc, ho])]
    exact hR.nil p.2 p.2.log
  · have hperform := hR.perform path line p.1 p.2 c
    rw [hp] at hperform
    rw [if_neg (by simpa using ho)]
    refine hR.append _ [_] _ (s.momentsWithin record p.1 p.2 c) _ hperform ?_
    cases c with
    | branch layout link =>
      obtain ⟨rfl, rfl⟩ := Prod.mk.inj hp
      rw [visit] at hv
      rw [momentsWithin]
      split_ifs at hv ⊢ with hn
      · obtain rfl := Except.ok.inj hv
        exact hR.nil p.2 p.2.log
      · exact hb _ _ _ _ hv
    | _ =>
      obtain rfl : w = w' := Except.ok.inj hv
      exact hR.nil w w.log

lemma Lasting.steps (hR : s.Lasting R)
    (hb : ∀ layout node w w', branch layout node w = .ok w' → R w (record layout node w) w')
    (h : s.steps branch name line lines p = .ok q) :
    R p.2 (s.momentsFrom branch record path line lines p) q.2 := by
  induction lines generalizing line p with
  | nil =>
    obtain rfl : p = q := Except.ok.inj h
    exact hR.nil p.2 p.2.log
  | cons l rest ih =>
    rcases l with e | _ | c
    · cases h
    · exact ih h
    · obtain ⟨p₁, h₁, h⟩ := ok_of_bind h
      rw [momentsFrom, h₁]
      exact hR.append _ _ _ _ _ (hR.exec hb h₁) (ih h)

lemma branching_of_missing {room : Nat} {layout : String} {node : Node} {w w' : Walk} {e : Error}
    (hs : s.script layout = .error e) (h : s.branching room path layout node w = .ok w') :
    ∃ log, w' = { w with log } := by
  rw [branching, follow, hs] at h
  cases e with
  | missingLayout name =>
    dsimp only at h
    split at h
    · exact ⟨_, (Except.ok.inj h).symm⟩
    · cases h
  | _ => cases h

lemma Lasting.branching (hR : s.Lasting R) (room : Nat) (path : List String) (layout : String)
    (node : Node) (w w' : Walk) (h : s.branching room path layout node w = .ok w') :
    R w (s.recording room path layout node w) w' := by
  induction room generalizing path layout node w w' with
  | zero =>
    cases hs : s.script layout with
    | error e =>
      obtain ⟨log, rfl⟩ := branching_of_missing hs h
      exact hR.nil w log
    | ok script =>
      rw [branching_zero path hs] at h
      cases h
  | succ room ih =>
    rw [recording]
    cases hs : s.script layout with
    | error e =>
      obtain ⟨log, rfl⟩ := branching_of_missing hs h
      exact hR.nil w log
    | ok script =>
      rw [branching_succ room path hs] at h
      dsimp only
      split_ifs at h ⊢ with hl
      · cases h
      · rw [runLines_eq_steps _ layout 0 script (.enter node, w)] at h
        obtain ⟨q, hq, h⟩ := ok_of_bind h
        obtain rfl := Except.ok.inj h
        exact hR.steps (ih _) hq

lemma Lasting.runRoot (hR : s.Lasting R) {root : String} {playhead : Option Playhead} {w : Walk}
    (h : runRoot s root playhead = .ok w) : R { playhead } (s.moments root playhead) w := by
  cases hs : s.script root with
  | error e => simp [Layout.runRoot, hs, Walk.stop] at h
  | ok script =>
    rw [runRoot_of_script hs] at h
    exact hR.branching _ _ _ _ _ _ h

def placed (s : Setting) (m : Moment) : List Placement :=
  (s.perform m.scope m.walk m.command).2.placements.drop m.walk.placements.length

lemma place_eq (s : Setting) (w : Walk) (node : Node) (layer : DrawLayer) (list : String)
    (transform : Matrix) :
    s.place w node layer list transform =
      { w with placements := w.placements ++
          if s.isNull list || !node.visible then []
          else [⟨list, layer, transform, node.zBuffer, node.billboard⟩] } := by
  rw [place]
  split <;> simp

lemma nextJoint_eq (w : Walk) (offset : Vec3 Float32) : ∃ playhead,
    (w.nextJoint offset).2 = { w with joint := w.joint + 1, playhead } := by
  cases hp : w.playhead with
  | none => exact ⟨none, by simp [Walk.nextJoint, hp]⟩
  | some p => exact ⟨some (p.joint offset w.joint).2, by simp [Walk.nextJoint, hp]⟩

lemma perform_cases (s : Setting) (sc : Scope) (w : Walk) (c : Command) :
    (∃ layer offset list, c = .animatedPart layer offset list ∧ sc.node.visible ∧
      s.perform sc w c = ({ sc with node := sc.node.turn (w.nextJoint offset).1 },
        s.place (w.nextJoint offset).2 (sc.node.turn (w.nextJoint offset).1) layer list
          (sc.node.transform * (w.nextJoint offset).1))) ∨
      (∀ layer offset list, c = .animatedPart layer offset list → sc.node.visible = false) ∧
        ∃ ps, (s.perform sc w c).2 = { w with placements := w.placements ++ ps } := by
  have hnone : ∃ ps, w = { w with placements := w.placements ++ ps } := ⟨[], by simp⟩
  cases c with
  | switchCase count selector =>
    refine .inr ⟨by simp, ?_⟩
    rw [perform]
    split <;> exact hnone
  | move motion layer list =>
    refine .inr ⟨by simp, ?_⟩
    cases list with
    | none => exact hnone
    | some list => exact ⟨_, s.place_eq ..⟩
  | animatedPart layer offset list =>
    cases hv : sc.node.visible with
    | true =>
      refine .inl ⟨layer, offset, list, rfl, rfl, ?_⟩
      rw [perform, if_pos hv]
      rfl
    | false =>
      refine .inr ⟨fun _ _ _ _ => rfl, ?_⟩
      rw [perform, if_neg (by simp [hv])]
      exact hnone
  | displayList layer list => exact .inr ⟨by simp, _, s.place_eq ..⟩
  | _ => exact .inr ⟨by simp, hnone⟩

lemma placements_perform (s : Setting) (sc : Scope) (w : Walk) (c : Command) :
    ∃ ps, (s.perform sc w c).2.placements = w.placements ++ ps := by
  obtain ⟨layer, offset, list, -, -, hperform⟩ | ⟨-, ps, hps⟩ := s.perform_cases sc w c
  · obtain ⟨playhead, hw⟩ := nextJoint_eq w offset
    simp only [hperform, place_eq, hw]
    exact ⟨_, rfl⟩
  · exact ⟨ps, congrArg Walk.placements hps⟩

lemma lasting_placed (s : Setting) :
    s.Lasting fun w ms w' => w'.placements = w.placements ++ ms.flatMap s.placed where
  nil w log := by simp
  append w ms w' ms' w'' h h' := by rw [h', h, List.flatMap_append, List.append_assoc]
  perform path line sc w c := by
    obtain ⟨ps, hps⟩ := s.placements_perform sc w c
    simp [placed, hps]

end Setting

end SceneDraw.Layout
