import Mathlib.Logic.Relation
import Mathlib.Tactic.SplitIfs
import SceneDraw.Proofs.Layout.Branching
import SceneDraw.Proofs.Stepping

/-! The run of a layout one line after another, with the layouts that are active: those that it has
entered and not left. It ends as the run by recursion does. The active layouts are always distinct
ones, each with the lines that are left of its script, and each is the target of a branch in the one
around it. -/

namespace SceneDraw.Layout

structure Activation where
  layout : String
  line : Nat
  rest : List Line
  scope : Scope

structure Entry where
  layout : String
  script : List Line
  node : Node

structure RunState where
  entry : Option Entry := none
  active : List Activation
  walk : Walk

def Entry.activation (e : Entry) : Activation := ⟨e.layout, 0, e.script, .enter e.node⟩

def Activation.goOn (a : Activation) (rest : List Line) (scope : Scope) : Activation :=
  ⟨a.layout, a.line + 1, rest, scope⟩

namespace RunState

variable (c : RunState)

def path : List String := c.active.map (·.layout)

def command? : Option Command :=
  match c.entry, c.active with
  | none, a :: _ =>
    match a.rest with
    | .ok (some d) :: _ => if d.isCase && !a.scope.switch.isOpen then none else some d
    | _ => none
  | _, _ => none

end RunState

namespace Setting

variable (s : Setting)

def turn (layout : String) (node : Node) (active : List Activation) (walk : Walk) :
    Next RunState Outcome :=
  if s.isNull layout then .goesOn { active, walk }
  else
    match s.script layout with
    | .ok script => .goesOn { entry := some ⟨layout, script, node⟩, active, walk }
    | .error _ =>
      match s.follow (fun _ _ _ walk => .ok walk) layout node walk with
      | .ok walk => .goesOn { active, walk }
      | .error e => .ends (.error e)

def carryOut (a : Activation) (rest : List Line) (outer : List Activation) (walk : Walk)
    (d : Command) : Next RunState Outcome :=
  let (sc, walk) := s.perform a.scope walk d
  let active := a.goOn rest (sc.pass d) :: outer
  match d with
  | .branch layout _ => s.turn layout sc.branchNode active walk
  | _ => .goesOn { active, walk }

def next : Stepper RunState Outcome := fun c =>
  match c.entry, c.active with
  | some e, active =>
    if e.layout ∈ c.path then .ends (c.walk.stop (.cycle e.layout))
    else if s.options.maxDepth ≤ active.length then .ends (c.walk.stop (.tooDeep e.layout))
    else .goesOn { active := e.activation :: active, walk := c.walk }
  | none, [] => .ends (.ok c.walk)
  | none, a :: outer =>
    match a.rest with
    | [] => .goesOn { active := outer, walk := c.walk }
    | .error e :: _ => .ends (c.walk.stop (.decode a.layout a.line e))
    | .ok none :: rest => .goesOn { active := a.goOn rest a.scope :: outer, walk := c.walk }
    | .ok (some d) :: rest =>
      if d.isCase && !a.scope.switch.isOpen then
        .goesOn { active := a.goOn rest (a.scope.pass d) :: outer, walk := c.walk }
      else s.carryOut a rest outer c.walk d

def start (root : String) (playhead : Option Playhead) : Next RunState Outcome :=
  match s.script root with
  | .ok script =>
    .goesOn { entry := some ⟨root, script, .root⟩, active := [], walk := { playhead } }
  | .error e => .ends (({ playhead } : Walk).stop e)

variable {s}

section

variable {room : Nat} {path : List String} {active outer : List Activation} {layout name : String}
  {node : Node} {w : Walk}

lemma follow_of_error {e : Error} (h : s.script layout = .error e)
    (enter enter' : String → List Line → Node → Walk → Outcome) (node : Node) (w : Walk) :
    s.follow enter layout node w = s.follow enter' layout node w := by
  rw [follow, follow, h]
  cases e <;> rfl

def Enters (s : Setting) (room : Nat) (path : List String) : Prop :=
  ∀ (active : List Activation) (e : Entry) (w : Walk), active.map (·.layout) = path →
    s.next.Yields (.goesOn { entry := some e, active, walk := w })
      (s.runLayout room path e.layout e.script e.node w) fun walk => { active, walk }

lemma Enters.turn (h : s.Enters room path) (active : List Activation)
    (hp : active.map (·.layout) = path) (layout : String) (node : Node) (w : Walk) :
    s.next.Yields (s.turn layout node active w)
      (if s.isNull layout then .ok w else s.branching room path layout node w)
      fun walk => { active, walk } := by
  rw [Setting.turn]
  split
  · exact .ok rfl
  · cases hs : s.script layout with
    | ok script =>
      have hb : s.branching room path layout node w =
          s.runLayout room path layout script node w := by
        rw [branching, follow, hs]
      rw [hb]
      exact h active ⟨layout, script, node⟩ w hp
    | error e =>
      dsimp only
      rw [branching, follow_of_error hs (s.runLayout room path) fun _ _ _ walk => .ok walk]
      cases s.follow (fun _ _ _ walk => .ok walk) layout node w with
      | ok walk => exact .ok rfl
      | error e => exact .error e

lemma Enters.exec (h : s.Enters room path) {a : Activation}
    (ha : a.layout :: outer.map (·.layout) = path) {d : Command} {rest : List Line}
    (hr : a.rest = .ok (some d) :: rest) (w : Walk) :
    s.next.Yields (.goesOn { active := a :: outer, walk := w })
      (s.exec (s.branching room path) (a.scope, w) d)
      fun p => { active := a.goOn rest p.1 :: outer, walk := p.2 } := by
  apply Stepper.Yields.of_next
  rw [Setting.exec]
  simp only [next, hr]
  split
  · exact .ok rfl
  · cases d with
    | branch layout link =>
      exact (h.turn (a.goOn rest _ :: outer) ha layout _ w).bind fun walk => .ok rfl
    | _ => exact .ok rfl

lemma Enters.runLines (h : s.Enters room path) (ha : name :: outer.map (·.layout) = path)
    (line : Nat) (rest : List Line) (sc : Scope) (w : Walk) :
    s.next.Yields (.goesOn { active := ⟨name, line, rest, sc⟩ :: outer, walk := w })
      (s.runLines (s.branching room path) name line rest sc w)
      fun walk => { active := outer, walk } := by
  induction rest generalizing line sc w with
  | nil => exact .of_next (.ok rfl)
  | cons l rest ih =>
    rcases l with e | _ | d
    · exact .of_next (.error _)
    · exact .of_next (ih _ _ _)
    · rw [runLines_cons]
      exact (h.exec (a := ⟨name, line, _, sc⟩) ha rfl w).bind fun p => ih _ _ _

lemma enters {room : Nat} {path : List String} (hr : path.length + room = s.options.maxDepth) :
    s.Enters room path := by
  induction room generalizing path with
  | zero =>
    rintro active e w rfl
    apply Stepper.Yields.of_next
    have hd : s.options.maxDepth ≤ active.length := by simp at hr; omega
    simp only [next, RunState.path, runLayout, hd, if_true]
    split
    · exact .error _
    · exact .error _
  | succ room ih =>
    rintro active e w rfl
    apply Stepper.Yields.of_next
    have hd : ¬s.options.maxDepth ≤ active.length := by
      rw [List.length_map] at hr
      omega
    simp only [next, RunState.path, runLayout, hd, if_false]
    split
    · exact .error _
    · have he : s.Enters room (e.layout :: active.map (·.layout)) := by
        apply ih
        rw [List.length_cons]
        omega
      exact he.runLines rfl _ _ _ _

lemma ends_start (root : String) (playhead : Option Playhead) :
    s.next.Ends (s.start root playhead) (runRoot s root playhead) := by
  rw [start, runRoot]
  cases s.script root with
  | ok script =>
    have h : s.Enters s.options.maxDepth [] := enters (Nat.zero_add _)
    exact (h [] ⟨root, script, .root⟩ { playhead } rfl).ends fun _ => rfl
  | error e => exact ⟨0, rfl⟩

end

end Setting

inductive Setting.Moves (s : Setting) : RunState → RunState → Prop
  | enter {e : Entry} {active : List Activation} {walk : Walk} :
      e.layout ∉ active.map (·.layout) → active.length < s.options.maxDepth →
      s.Moves ⟨some e, active, walk⟩ ⟨none, e.activation :: active, walk⟩
  | leave {a : Activation} {outer : List Activation} {walk : Walk} : a.rest = [] →
      s.Moves ⟨none, a :: outer, walk⟩ ⟨none, outer, walk⟩
  | line {a : Activation} {outer : List Activation} {walk walk' : Walk} {l : Line}
      {rest : List Line} {scope : Scope} {entry : Option Entry} : a.rest = l :: rest →
      (∀ e ∈ entry, s.script e.layout = .ok e.script ∧ s.isNull e.layout = false ∧
        ∃ link, (RunState.mk none (a :: outer) walk).command? = some (.branch e.layout link)) →
      s.Moves ⟨none, a :: outer, walk⟩ ⟨entry, a.goOn rest scope :: outer, walk'⟩

inductive Setting.Fails (s : Setting) : RunState → Error → Prop
  | cycle {e : Entry} {active : List Activation} {walk : Walk} :
      e.layout ∈ active.map (·.layout) → s.Fails ⟨some e, active, walk⟩ (.cycle e.layout)
  | tooDeep {e : Entry} {active : List Activation} {walk : Walk} :
      e.layout ∉ active.map (·.layout) → s.options.maxDepth ≤ active.length →
      s.Fails ⟨some e, active, walk⟩ (.tooDeep e.layout)
  | decode {a : Activation} {outer : List Activation} {walk : Walk} {cause : ParseError}
      {rest : List Line} : a.rest = .error cause :: rest →
      s.Fails ⟨none, a :: outer, walk⟩ (.decode a.layout a.line cause)
  | missing {c : RunState} {layout : String} {link : Bool} {e : Error} :
      c.command? = some (.branch layout link) → s.isNull layout = false →
      s.script layout = .error e →
      (∀ name, e = .missingLayout name → s.options.policy = .fail) → s.Fails c e

namespace Setting

variable {s : Setting} {c c' : RunState} {e : Error}

lemma follow_cases {layout : String} (hs : s.script layout = .error e)
    (enter : String → List Line → Node → Walk → Outcome) (node : Node) (w : Walk) :
    (∃ name, e = .missingLayout name ∧ s.options.policy = .skip ∧
      ∃ walk, s.follow enter layout node w = .ok walk) ∨
    (∀ name, e = .missingLayout name → s.options.policy = .fail) ∧
      s.follow enter layout node w = w.stop e := by
  rw [follow, hs]
  cases e with
  | missingLayout name =>
    cases hp : s.options.policy with
    | skip => exact .inl ⟨name, rfl, rfl, _, rfl⟩
    | fail => exact .inr ⟨fun _ _ => rfl, rfl⟩
  | _ => exact .inr ⟨by simp, rfl⟩

lemma does_turn {layout : String} {node : Node} {active : List Activation} {w : Walk} :
    (s.turn layout node active w).Does
      (fun c => ∃ entry walk, c = ⟨entry, active, walk⟩ ∧ ∀ e ∈ entry, e.layout = layout ∧
        s.script e.layout = .ok e.script ∧ s.isNull e.layout = false)
      (fun e => s.isNull layout = false ∧ s.script layout = .error e ∧
        ∀ name, e = .missingLayout name → s.options.policy = .fail) := by
  rw [turn]
  split
  · exact .move ⟨none, w, rfl, by simp⟩
  · rename_i hn
    have hn : s.isNull layout = false := by simpa using hn
    cases hs : s.script layout with
    | ok script =>
      refine .move ⟨some ⟨layout, script, node⟩, w, rfl, fun e he => ?_⟩
      obtain rfl := Option.some.inj he
      exact ⟨rfl, hs, hn⟩
    | error e =>
      dsimp only
      obtain ⟨-, -, -, walk, hf⟩ | ⟨hp, hf⟩ := follow_cases hs (fun _ _ _ w => .ok w) node w
      · rw [hf]
        exact .move ⟨none, walk, rfl, by simp⟩
      · rw [hf]
        exact .fail _ ⟨hn, rfl, hp⟩

lemma turn_of_error {layout : String} (hn : s.isNull layout = false)
    (hs : s.script layout = .error e)
    (hp : ∀ name, e = .missingLayout name → s.options.policy = .fail) (node : Node)
    (active : List Activation) (w : Walk) :
    ∃ log, s.turn layout node active w = .ends (.error ⟨e, log⟩) := by
  rw [turn, hn, hs]
  obtain ⟨name, hname, hskip, -⟩ | ⟨-, hf⟩ := follow_cases hs (fun _ _ _ w => .ok w) node w
  · rw [hp name hname] at hskip
    cases hskip
  · exact ⟨w.log, by simp [hf, Walk.stop]⟩

lemma does_next (c : RunState) : (s.next c).Does (s.Moves c) (s.Fails c) := by
  obtain ⟨_ | e, active, walk⟩ := c
  · rcases active with _ | ⟨a, outer⟩
    · exact .done walk
    cases hr : a.rest with
    | nil =>
      simp only [next, hr]
      exact .move (.leave hr)
    | cons l rest =>
      simp only [next, hr]
      rcases l with cause | _ | d
      · exact .fail _ (.decode hr)
      · exact .move (.line hr (by simp))
      · dsimp only
        split
        · exact .move (.line hr (by simp))
        · rename_i ho
          have hc : (RunState.mk none (a :: outer) walk).command? = some d := by
            simp only [RunState.command?, hr]
            exact if_neg ho
          cases d with
          | branch layout link =>
            refine does_turn.imp (fun c' h => ?_) fun e ⟨hn, hs, hp⟩ => .missing hc hn hs hp
            obtain ⟨entry, walk', rfl, he⟩ := h
            refine .line hr fun e hm => ?_
            obtain ⟨rfl, hs, hn⟩ := he e hm
            exact ⟨hs, hn, link, hc⟩
          | _ => exact .move (.line hr (by simp))
  · simp only [next, RunState.path]
    split_ifs with hl hd
    · exact .fail _ (.cycle hl)
    · exact .fail _ (.tooDeep hl hd)
    · exact .move (.enter hl (Nat.lt_of_not_le hd))

lemma moves_of_next (h : s.next c = .goesOn c') : s.Moves c c' := (does_next c).of_goesOn h

lemma next_of_command {d : Command} (h : c.command? = some d) : ∃ a rest outer, c.entry = none ∧
    c.active = a :: outer ∧ a.rest = .ok (some d) :: rest ∧
      s.next c = s.carryOut a rest outer c.walk d := by
  obtain ⟨_ | e, _ | ⟨⟨layout, line, _ | ⟨l, rest⟩, scope⟩, outer⟩, walk⟩ := c
  · cases h
  · cases h
  · rcases l with cause | _ | d'
    · cases h
    · cases h
    · simp only [RunState.command?] at h
      split at h
      · cases h
      · rename_i ho
        obtain rfl := Option.some.inj h
        exact ⟨_, _, _, rfl, rfl, rfl, if_neg ho⟩
  · cases h
  · cases h
  · cases h

lemma fails_iff : s.Fails c e ↔ ∃ log, s.next c = .ends (.error ⟨e, log⟩) := by
  refine ⟨fun h => ?_, fun ⟨log, h⟩ => (does_next c).of_error h⟩
  cases h with
  | cycle hl => exact ⟨_, if_pos hl⟩
  | tooDeep hl hd => exact ⟨_, (if_neg hl).trans (if_pos hd)⟩
  | decode hr => exact ⟨_, by simp only [next, hr]; rfl⟩
  | missing hc hn hs hp =>
    obtain ⟨a, rest, outer, -, -, -, h⟩ := next_of_command (s := s) hc
    rw [h]
    exact turn_of_error hn hs hp _ _ _

def Branches (s : Setting) (layout target : String) : Prop :=
  s.isNull target = false ∧ ∃ script link, s.script layout = .ok script ∧
    .ok (some (.branch target link)) ∈ script

end Setting

structure RunState.Sound (s : Setting) (c : RunState) : Prop where
  entry : ∀ e ∈ c.entry, s.script e.layout = .ok e.script
  placed : ∀ a ∈ c.active, ∃ done, s.script a.layout = .ok (done ++ a.rest) ∧ done.length = a.line
  nodup : c.path.Nodup
  bounded : c.active.length ≤ s.options.maxDepth
  linked : ((c.entry.map (·.layout)).toList ++ c.path).Pairwise fun inner outer =>
    Relation.TransGen s.Branches outer inner

namespace Setting

variable {s : Setting} {c c' : RunState} {e : Error}

lemma Moves.sound (h : s.Moves c c') (hc : c.Sound s) : c'.Sound s := by
  cases h with
  | @enter e active walk hl hd =>
    refine ⟨by simp, fun a ha => ?_, List.nodup_cons.2 ⟨hl, hc.nodup⟩, hd, hc.linked⟩
    obtain rfl | ha := List.mem_cons.1 ha
    · exact ⟨[], hc.entry e rfl, rfl⟩
    · exact hc.placed a ha
  | @leave a outer walk _ =>
    exact ⟨by simp, fun a ha => hc.placed a (List.mem_cons_of_mem _ ha), hc.nodup.of_cons,
      Nat.le_of_succ_le hc.bounded, hc.linked.of_cons⟩
  | @line a outer walk walk' l rest scope entry hr he =>
    obtain ⟨done, hs, hlen⟩ := hc.placed a List.mem_cons_self
    refine ⟨fun e h => (he e h).1, fun b hb => ?_, hc.nodup, hc.bounded, ?_⟩
    · obtain rfl | hb := List.mem_cons.1 hb
      · have hs' : s.script a.layout = .ok (done ++ [l] ++ rest) := by simpa [hr] using hs
        exact ⟨done ++ [l], hs', by simp [hlen, Activation.goOn]⟩
      · exact hc.placed b (List.mem_cons_of_mem _ hb)
    · cases entry with
      | none => exact hc.linked
      | some e =>
        obtain ⟨-, hn, link, hd⟩ := he e rfl
        obtain ⟨_, _, _, -, ha, hl, -⟩ := next_of_command (s := s) hd
        obtain ⟨rfl, rfl⟩ := List.cons.inj ha
        have hb : s.Branches a.layout e.layout := ⟨hn, _, link, hs, by simp [hl]⟩
        refine List.pairwise_cons.2 ⟨fun b hb' => ?_, hc.linked⟩
        obtain rfl | hb' := List.mem_cons.1 hb'
        · exact .single hb
        · exact .tail ((List.pairwise_cons.1 hc.linked).1 b hb') hb

lemma sound_of_passes {root : String} {playhead : Option Playhead}
    (h : s.next.Passes (s.start root playhead) c) : c.Sound s := by
  refine h.induction (fun c hc => ?_) fun c c' hc hn => (moves_of_next hn).sound hc
  rw [start] at hc
  split at hc
  · rename_i script hs
    obtain rfl := Next.goesOn.inj hc
    exact ⟨fun e he => Option.some.inj he ▸ hs, by simp, .nil, Nat.zero_le _,
      List.pairwise_singleton _ _⟩
  · cases hc

end Setting

end SceneDraw.Layout
