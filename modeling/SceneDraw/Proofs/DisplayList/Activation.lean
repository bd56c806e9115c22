import Mathlib.Tactic.SplitIfs
import SceneDraw.Proofs.DisplayList.Reach
import SceneDraw.Proofs.Stepping

/-! The run of a display list one line after another, with the lists that are active: the one that
is run and those that wait for a call to come back. It ends as the run by recursion does. Each
active list knows how many jumps led to it since its call. -/

namespace SceneDraw.DisplayList

/-- A list that is run, with its lines from the given one on, and the jumps that its call took. -/
structure Activation where
  list : String
  line : Nat
  rest : List Line
  jumps : Nat

structure RunState where
  active : List Activation
  machine : Machine

def Activation.goOn (a : Activation) (rest : List Line) : Activation :=
  { a with line := a.line + 1, rest }

def RunState.line? (c : RunState) : Option Line := c.active.head?.bind (·.rest.head?)

lemma RunState.line?_eq_some_iff {c : RunState} {l : Line} :
    c.line? = some l ↔ ∃ a callers rest, c.active = a :: callers ∧ a.rest = l :: rest := by
  obtain ⟨_ | ⟨⟨list, line, _ | ⟨l', rest⟩, jumps⟩, callers⟩, m⟩ := c <;> simp [line?]

namespace Setting

variable (s : Setting)

def enter (list : String) (jumps : Nat) (callers : List Activation) (m : Machine) :
    Next RunState Outcome :=
  if s.options.maxDepth < jumps ∨ s.options.maxDepth < callers.length then
    .ends (m.stop (.tooDeep list))
  else
    match s.script list with
    | .ok script => .goesOn ⟨⟨list, 0, script, jumps⟩ :: callers, m⟩
    | .error e => .ends (m.stop e)

def carryOut (a : Activation) (rest : List Line) (callers : List Activation) (m : Machine) :
    Command → Next RunState Outcome
  | .call list => s.enter list 0 (a.goOn rest :: callers) m
  | .jump list => s.enter list (a.jumps + 1) callers m
  | .finish => .goesOn ⟨callers, m⟩
  | d =>
    match m.step s ⟨a.list, a.line, d⟩ with
    | .ok m => .goesOn ⟨a.goOn rest :: callers, m⟩
    | .error e => .ends (m.stop e)

def next : Stepper RunState Outcome := fun c =>
  match c.active with
  | [] => .ends (.ok c.machine)
  | a :: callers =>
    match a.rest with
    | [] => .goesOn ⟨callers, c.machine⟩
    | .error e :: _ => .ends (c.machine.stop (.decode a.list a.line e))
    | .ok none :: rest => .goesOn ⟨a.goOn rest :: callers, c.machine⟩
    | .ok (some d) :: rest => s.carryOut a rest callers c.machine d

def start (root : String) : Next RunState Outcome := s.enter root 0 [] {}

variable {s} {calls jumps : Nat} {callers : List Activation} {a : Activation} {rest : List Line}
  {name : String} {d : Command}

lemma carryOut_plain (h : d.isControl = false) (m : Machine) :
    s.carryOut a rest callers m d = match m.step s ⟨a.list, a.line, d⟩ with
      | .ok m => .goesOn ⟨a.goOn rest :: callers, m⟩
      | .error e => .ends (m.stop e) := by
  cases d <;> first | rfl | cases h

section

def CallsEnd (s : Setting) (calls : Nat) (callers : List Activation) : Prop :=
  ∀ (list : String) (a : Activation) (m : Machine),
    s.next.Yields (s.enter list 0 (a :: callers) m) (s.playCall calls list m)
      fun m => ⟨a :: callers, m⟩

def JumpsEnd (s : Setting) (calls jumps taken : Nat) (callers : List Activation) : Prop :=
  ∀ (list : String) (m : Machine),
    s.next.Yields (s.enter list (taken + 1) callers m) (s.playJump calls jumps list m)
      fun m => ⟨callers, m⟩

lemma yields_lines {taken : Nat} (hc : s.CallsEnd calls callers)
    (hj : s.JumpsEnd calls jumps taken callers) (line : Nat) (rest : List Line) (m : Machine) :
    s.next.Yields (.goesOn ⟨⟨name, line, rest, taken⟩ :: callers, m⟩)
      (s.playLines calls jumps name line rest m) fun m => ⟨callers, m⟩ := by
  induction rest generalizing line m with
  | nil => exact .of_next (.ok rfl)
  | cons l rest ih =>
    have plain {d : Command} (hd : d.isControl = false) :
        s.next.Yields (.goesOn ⟨⟨name, line, .ok (some d) :: rest, taken⟩ :: callers, m⟩)
          (s.playLines calls jumps name line (.ok (some d) :: rest) m) fun m => ⟨callers, m⟩ := by
      apply Stepper.Yields.of_next
      rw [playLines_plain hd]
      change s.next.Yields (s.carryOut ..) _ _
      rw [carryOut_plain hd]
      cases m.step s ⟨name, line, d⟩ with
      | ok m => exact ih _ _
      | error e => exact .error _
    rcases l with e | _ | d
    · exact .of_next (.error _)
    · exact .of_next (ih _ _)
    · cases d with
      | call list =>
        apply Stepper.Yields.of_next
        rw [playLines_call]
        exact (hc list _ m).bind fun m => ih _ _
      | jump list =>
        apply Stepper.Yields.of_next
        rw [playLines_jump]
        exact hj list m
      | finish => exact .of_next (.ok rfl)
      | _ => exact plain rfl

lemma yields_enter {taken : Nat} {callers : List Activation} {list : String} {m : Machine}
    (ht : taken ≤ s.options.maxDepth) (hl : callers.length ≤ s.options.maxDepth)
    (hc : s.CallsEnd calls callers) (hj : s.JumpsEnd calls jumps taken callers) :
    s.next.Yields (s.enter list taken callers m)
      (m.lift (s.script list) >>= fun script => s.playLines calls jumps list 0 script m)
      fun m => ⟨callers, m⟩ := by
  rw [enter, if_neg (by omega)]
  cases s.script list with
  | ok script => exact yields_lines hc hj _ _ _
  | error e => exact .error _

lemma jumpsEnd {taken : Nat} (ht : taken + jumps = s.options.maxDepth)
    (hl : callers.length ≤ s.options.maxDepth) (hc : s.CallsEnd calls callers) :
    s.JumpsEnd calls jumps taken callers := by
  induction jumps generalizing taken with
  | zero =>
    intro list m
    rw [enter, if_pos (.inl (by omega))]
    exact .error _
  | succ jumps ih =>
    intro list m
    rw [playJump_succ]
    exact yields_enter (by omega) hl hc (ih (by omega))

lemma yields_call (h : callers.length + calls = s.options.maxDepth + 1) (list : String)
    (m : Machine) :
    s.next.Yields (s.enter list 0 callers m) (s.playCall calls list m) fun m => ⟨callers, m⟩ := by
  induction calls generalizing callers list m with
  | zero =>
    rw [enter, if_pos (.inr (by omega))]
    exact .error _
  | succ calls ih =>
    have hc : s.CallsEnd calls callers := fun list a m => by
      refine ih ?_ list m
      rw [List.length_cons]
      omega
    rw [playCall_succ]
    exact yields_enter (Nat.zero_le _) (by omega) hc (jumpsEnd (Nat.zero_add _) (by omega) hc)

lemma ends_start (s : Setting) (root : String) :
    s.next.Ends (s.start root) (runNested s true s.options.maxDepth root {}) := by
  have h : ([] : List Activation).length + (s.options.maxDepth + 1) = s.options.maxDepth + 1 :=
    Nat.zero_add _
  rw [runNested_eq_play]
  exact (yields_call h root {}).ends fun _ => rfl

end

end Setting

inductive Setting.Moves (s : Setting) : RunState → RunState → Prop
  | leave {a : Activation} {callers : List Activation} {m : Machine} :
      (a.rest = [] ∨ ∃ rest, a.rest = .ok (some .finish) :: rest) →
      s.Moves ⟨a :: callers, m⟩ ⟨callers, m⟩
  | blank {a : Activation} {callers : List Activation} {m : Machine} {rest : List Line} :
      a.rest = .ok none :: rest → s.Moves ⟨a :: callers, m⟩ ⟨a.goOn rest :: callers, m⟩
  | plain {a : Activation} {callers : List Activation} {m m' : Machine} {d : Command}
      {rest : List Line} :
      a.rest = .ok (some d) :: rest → d.isControl = false →
      m.step s ⟨a.list, a.line, d⟩ = .ok m' →
      s.Moves ⟨a :: callers, m⟩ ⟨a.goOn rest :: callers, m'⟩
  | call {a : Activation} {callers : List Activation} {m : Machine} {list : String}
      {rest script : List Line} :
      a.rest = .ok (some (.call list)) :: rest → callers.length < s.options.maxDepth →
      s.script list = .ok script →
      s.Moves ⟨a :: callers, m⟩ ⟨⟨list, 0, script, 0⟩ :: a.goOn rest :: callers, m⟩
  | jump {a : Activation} {callers : List Activation} {m : Machine} {list : String}
      {rest script : List Line} :
      a.rest = .ok (some (.jump list)) :: rest → a.jumps < s.options.maxDepth →
      s.script list = .ok script →
      s.Moves ⟨a :: callers, m⟩ ⟨⟨list, 0, script, a.jumps + 1⟩ :: callers, m⟩

def Setting.Bars (s : Setting) (list : String) (jumps callers : Nat) (e : Error) : Prop :=
  if s.options.maxDepth < jumps ∨ s.options.maxDepth < callers then e = .tooDeep list
  else s.script list = .error e

inductive Setting.Fails (s : Setting) : RunState → Error → Prop
  | decode {a : Activation} {callers : List Activation} {m : Machine} {cause : ParseError}
      {rest : List Line} :
      a.rest = .error cause :: rest → s.Fails ⟨a :: callers, m⟩ (.decode a.list a.line cause)
  | step {a : Activation} {callers : List Activation} {m : Machine} {d : Command}
      {rest : List Line} {e : Error} :
      a.rest = .ok (some d) :: rest → d.isControl = false →
      m.step s ⟨a.list, a.line, d⟩ = .error e → s.Fails ⟨a :: callers, m⟩ e
  | call {a : Activation} {callers : List Activation} {m : Machine} {list : String}
      {rest : List Line} {e : Error} :
      a.rest = .ok (some (.call list)) :: rest → s.Bars list 0 (callers.length + 1) e →
      s.Fails ⟨a :: callers, m⟩ e
  | jump {a : Activation} {callers : List Activation} {m : Machine} {list : String}
      {rest : List Line} {e : Error} :
      a.rest = .ok (some (.jump list)) :: rest → s.Bars list (a.jumps + 1) callers.length e →
      s.Fails ⟨a :: callers, m⟩ e

namespace Setting

variable {s : Setting} {c c' : RunState} {e : Error} {list : String} {jumps : Nat}
  {callers : List Activation} {m : Machine}

lemma does_enter : (s.enter list jumps callers m).Does
    (fun c => jumps ≤ s.options.maxDepth ∧ callers.length ≤ s.options.maxDepth ∧
      ∃ script, s.script list = .ok script ∧ c = ⟨⟨list, 0, script, jumps⟩ :: callers, m⟩)
    (s.Bars list jumps callers.length) := by
  rw [enter]
  split
  · rename_i hd
    exact .fail _ (by rw [Bars, if_pos hd])
  · rename_i hd
    cases hs : s.script list with
    | ok script => exact .move ⟨by omega, by omega, script, rfl, rfl⟩
    | error e => exact .fail _ (by rwa [Bars, if_neg hd])

lemma ends_of_bars (callers : List Activation) (h : s.Bars list jumps callers.length e)
    (m : Machine) :
    ∃ log, s.enter list jumps callers m = .ends (.error ⟨e, log⟩) := by
  rw [Bars] at h
  rw [enter]
  split at h
  · rename_i hd
    subst h
    exact ⟨_, if_pos hd⟩
  · rename_i hd
    exact ⟨_, by rw [if_neg hd, h]; rfl⟩

lemma does_next (c : RunState) : (s.next c).Does (s.Moves c) (s.Fails c) := by
  obtain ⟨_ | ⟨a, callers⟩, m⟩ := c
  · exact .done m
  cases hr : a.rest with
  | nil =>
    simp only [next, hr]
    exact .move (.leave (.inl hr))
  | cons l rest =>
    simp only [next, hr]
    rcases l with cause | _ | d
    · exact .fail _ (.decode hr)
    · exact .move (.blank hr)
    · have plain (hd : d.isControl = false) : (s.carryOut a rest callers m d).Does
          (s.Moves ⟨a :: callers, m⟩) (s.Fails ⟨a :: callers, m⟩) := by
        rw [carryOut_plain hd]
        cases hm : m.step s ⟨a.list, a.line, d⟩ with
        | ok m' => exact .move (.plain hr hd hm)
        | error e => exact .fail _ (.step hr hd hm)
      cases d with
      | call list =>
        refine does_enter.imp (fun c' h => ?_) fun e => .call hr
        obtain ⟨-, hl, script, hs, rfl⟩ := h
        exact .call hr hl hs
      | jump list =>
        refine does_enter.imp (fun c' h => ?_) fun e => .jump hr
        obtain ⟨hj, -, script, hs, rfl⟩ := h
        exact .jump hr hj hs
      | finish => exact .move (.leave (.inr ⟨rest, hr⟩))
      | _ => exact plain rfl

lemma moves_of_next (h : s.next c = .goesOn c') : s.Moves c c' := (does_next c).of_goesOn h

lemma fails_iff : s.Fails c e ↔ ∃ log, s.next c = .ends (.error ⟨e, log⟩) := by
  refine ⟨fun h => ?_, fun ⟨log, h⟩ => (does_next c).of_error h⟩
  cases h with
  | decode hr => exact ⟨_, by simp only [next, hr]; rfl⟩
  | step hr hd hm =>
    simp only [next, hr, carryOut_plain hd, hm]
    exact ⟨_, rfl⟩
  | call hr hb =>
    simp only [next, hr]
    exact ends_of_bars (_ :: _) hb _
  | jump hr hb =>
    simp only [next, hr]
    exact ends_of_bars _ hb _

end Setting

structure Activation.Sound (s : Setting) (a : Activation) : Prop where
  placed : ∃ done, s.script a.list = .ok (done ++ a.rest) ∧ done.length = a.line
  jumps : a.jumps ≤ s.options.maxDepth

structure RunState.Sound (s : Setting) (c : RunState) : Prop where
  active : ∀ a ∈ c.active, a.Sound s
  calls : c.active.length ≤ s.options.maxDepth + 1

section

variable {s : Setting} {a : Activation} {c c' : RunState}

lemma Activation.Sound.goOn {l : Line} {rest : List Line} (h : a.Sound s)
    (hr : a.rest = l :: rest) : (a.goOn rest).Sound s := by
  obtain ⟨done, hs, hlen⟩ := h.placed
  exact ⟨⟨done ++ [l], by simpa [Activation.goOn, hr] using hs, by simp [Activation.goOn, hlen]⟩,
    h.jumps⟩

lemma Activation.Sound.of_script {list : String} {script : List Line} {jumps : Nat}
    (hs : s.script list = .ok script) (hj : jumps ≤ s.options.maxDepth) :
    (Activation.mk list 0 script jumps).Sound s :=
  ⟨⟨[], hs, rfl⟩, hj⟩

lemma Setting.Moves.sound (h : s.Moves c c') (hc : c.Sound s) : c'.Sound s := by
  obtain ⟨hactive, hcalls⟩ := hc
  cases h with
  | leave =>
    exact ⟨(List.forall_mem_cons.1 hactive).2, Nat.le_of_succ_le hcalls⟩
  | blank hr =>
    obtain ⟨ha, hcallers⟩ := List.forall_mem_cons.1 hactive
    exact ⟨List.forall_mem_cons.2 ⟨ha.goOn hr, hcallers⟩, hcalls⟩
  | plain hr =>
    obtain ⟨ha, hcallers⟩ := List.forall_mem_cons.1 hactive
    exact ⟨List.forall_mem_cons.2 ⟨ha.goOn hr, hcallers⟩, hcalls⟩
  | call hr hd hs =>
    obtain ⟨ha, hcallers⟩ := List.forall_mem_cons.1 hactive
    refine ⟨List.forall_mem_cons.2 ⟨.of_script hs (Nat.zero_le _), ?_⟩, ?_⟩
    · exact List.forall_mem_cons.2 ⟨ha.goOn hr, hcallers⟩
    · exact Nat.succ_le_succ hd
  | jump hr hd hs =>
    obtain ⟨ha, hcallers⟩ := List.forall_mem_cons.1 hactive
    exact ⟨List.forall_mem_cons.2 ⟨.of_script hs hd, hcallers⟩, hcalls⟩

lemma Setting.sound_of_passes {root : String} (h : s.next.Passes (s.start root) c) : c.Sound s := by
  refine h.induction (fun c hc => ?_) fun c c' hc hn => (moves_of_next hn).sound hc
  obtain ⟨hj, -, script, hs, rfl⟩ := does_enter.of_goesOn hc
  exact ⟨List.forall_mem_cons.2 ⟨.of_script hs hj, nofun⟩, Nat.le_add_left _ _⟩

end

def Outcome.batches : Outcome → Except Error (List Batch)
  | .ok m => .ok m.batches
  | .error e => .error e.error

lemma interpret_eq_batches (s : Setting) (root : String) : (interpret s root).1 =
    (runNested s true s.options.maxDepth root {}).batches := by
  rw [interpret, interpretWith]
  cases runNested s true s.options.maxDepth root {} <;> rfl

lemma interpret_eq_error_iff_fails {s : Setting} {root : String} {e : Error} :
    (interpret s root).1 = .error e ↔
      s.Bars root 0 0 e ∨ ∃ c, s.next.Passes (s.start root) c ∧ s.Fails c e := by
  have hstart : (∃ log, s.start root = .ends (.error ⟨e, log⟩)) ↔ s.Bars root 0 0 e :=
    ⟨fun ⟨_, h⟩ => Setting.does_enter.of_error h, fun h => Setting.ends_of_bars [] h {}⟩
  simp only [interpret_eq_error_iff, Stops, (s.ends_start root).error_iff, hstart,
    Setting.fails_iff]

end SceneDraw.DisplayList
