import SceneDraw.Proofs.DisplayList.Linear

/-! The lines that a run reaches, in the list itself and in all lists that are called and jumped to,
with the commands that it runs before. A run is stopped if and only if it reaches a line that fails
in the state that these commands lead to. -/

namespace SceneDraw.DisplayList

structure Site where
  calls : Nat
  jumps : Nat
  list : String
  line : Nat
  content : Line

inductive Machine.Trouble (s : Setting) (m : Machine) (p : Placed) : Error → Prop
  | buffer {l : VertexLoad} : p.command = .load l → s.vertices.find? l.buffer = none →
      Trouble s m p (.missingBuffer l.buffer)
  | light {name : String} : s.options.policy = .fail → s.lights.find? name = none →
      (p.command = .lightPair name ∨ ∃ part slot, p.command = .light name part slot) →
      Trouble s m p (.missingLight name)
  | empty : p.command.isTriangle → m.newest = [] → Trouble s m p (.noVertices p.list p.line)
  | index {index count : UInt32} : p.command.isTriangle ∨ (∃ l, p.command = .load l) →
      Trouble s m p (.invalidIndex index count)

inductive Site.Fails (s : Setting) (m : Machine) : Site → Error → Prop
  | decode {calls jumps : Nat} {list : String} {line : Nat} {e : ParseError} :
      Fails s m ⟨calls, jumps, list, line, .error e⟩ (.decode list line e)
  | callTooDeep {jumps : Nat} {list name : String} {line : Nat} :
      Fails s m ⟨0, jumps, list, line, .ok (some (.call name))⟩ (.tooDeep name)
  | call {calls jumps : Nat} {list name : String} {line : Nat} {e : Error} :
      s.script name = .error e →
      Fails s m ⟨calls + 1, jumps, list, line, .ok (some (.call name))⟩ e
  | jumpTooDeep {calls : Nat} {list name : String} {line : Nat} :
      Fails s m ⟨calls, 0, list, line, .ok (some (.jump name))⟩ (.tooDeep name)
  | jump {calls jumps : Nat} {list name : String} {line : Nat} {e : Error} :
      s.script name = .error e →
      Fails s m ⟨calls, jumps + 1, list, line, .ok (some (.jump name))⟩ e
  | step {calls jumps : Nat} {list : String} {line : Nat} {c : Command} {e : Error} :
      c.isControl = false → m.step s ⟨list, line, c⟩ = .error e →
      Fails s m ⟨calls, jumps, list, line, .ok (some c)⟩ e

namespace Setting

/--
The run of the lines of the list `name` from the given line on, with room for the given number of
nested calls and of jumps, reaches the site after the given commands, if none of these fails.
-/
inductive Reaches (s : Setting) :
    Nat → Nat → String → Nat → List Line → List Placed → Site → Prop
  | here {calls jumps : Nat} {name : String} {line : Nat} {l : Line} {rest : List Line} :
      s.Reaches calls jumps name line (l :: rest) [] ⟨calls, jumps, name, line, l⟩
  | blank {calls jumps : Nat} {name : String} {line : Nat} {rest : List Line} {cs : List Placed}
      {q : Site} :
      s.Reaches calls jumps name (line + 1) rest cs q →
      s.Reaches calls jumps name line (.ok none :: rest) cs q
  | plain {calls jumps : Nat} {name : String} {line : Nat} {rest : List Line} {cs : List Placed}
      {q : Site} {c : Command} :
      c.isControl = false →
      s.Reaches calls jumps name (line + 1) rest cs q →
      s.Reaches calls jumps name line (.ok (some c) :: rest) (⟨name, line, c⟩ :: cs) q
  | inCall {calls jumps : Nat} {name : String} {line : Nat} {rest : List Line} {cs : List Placed}
      {q : Site} {list : String} {script : List Line} :
      s.script list = .ok script →
      s.Reaches calls s.options.maxDepth list 0 script cs q →
      s.Reaches (calls + 1) jumps name line (.ok (some (.call list)) :: rest) cs q
  | afterCall {calls jumps : Nat} {name : String} {line : Nat} {rest : List Line}
      {cs ds : List Placed} {q : Site} {list : String} {script : List Line} :
      s.script list = .ok script →
      s.Linear calls s.options.maxDepth list 0 script cs →
      s.Reaches (calls + 1) jumps name (line + 1) rest ds q →
      s.Reaches (calls + 1) jumps name line (.ok (some (.call list)) :: rest) (cs ++ ds) q
  | jump {calls jumps : Nat} {name : String} {line : Nat} {rest : List Line} {cs : List Placed}
      {q : Site} {list : String} {script : List Line} :
      s.script list = .ok script →
      s.Reaches calls jumps list 0 script cs q →
      s.Reaches calls (jumps + 1) name line (.ok (some (.jump list)) :: rest) cs q

def Visits (s : Setting) (calls jumps : Nat) (name : String) (line : Nat) (script : List Line)
    (m : Machine) (q : Site) (m' : Machine) : Prop :=
  ∃ cs, s.Reaches calls jumps name line script cs q ∧ cs.foldlM (Machine.step s) m = .ok m'

def Faults (s : Setting) (calls jumps : Nat) (name : String) (line : Nat) (script : List Line)
    (m : Machine) (e : Error) : Prop :=
  ∃ q m', s.Visits calls jumps name line script m q m' ∧ q.Fails s m' e

end Setting

section

variable {s : Setting} {m m' : Machine} {e : Error}

namespace Batch

variable {b : Batch} {cache : Cache}

lemma error_of_place {slot : UInt32} (h : b.place cache slot = .error e) :
    ∃ index count, e = .invalidIndex index count := by
  rw [place] at h
  split at h
  · cases h
  · split at h
    · cases h
    · exact ⟨_, _, (Except.error.inj h).symm⟩

lemma error_of_addTriangle {t : Triangle} (h : b.addTriangle cache t = .error e) :
    ∃ index count, e = .invalidIndex index count := by
  obtain h | ⟨b₁, -, h⟩ := error_of_bind h
  · exact error_of_place h
  obtain h | ⟨b₂, -, h⟩ := error_of_bind h
  · exact error_of_place h
  obtain h | ⟨b₃, -, h⟩ := error_of_bind h
  · exact error_of_place h
  · cases h

lemma error_of_addTriangles {ts : List Triangle} (h : b.addTriangles cache ts = .error e) :
    ∃ index count, e = .invalidIndex index count := by
  induction ts generalizing b with
  | nil => cases h
  | cons t ts ih =>
    obtain h | ⟨b₁, -, h⟩ := error_of_bind h
    · exact error_of_addTriangle h
    · exact ih h

end Batch

namespace Machine

lemma error_of_extend {ts : List Triangle} (h : m.extend ts = .error e) :
    ∃ index count, e = .invalidIndex index count := by
  rw [extend] at h
  split at h
  · cases h
  · obtain h | ⟨b, -, h⟩ := error_of_bind h
    · exact Batch.error_of_addTriangles h
    · cases h

lemma error_of_draw {list : String} {line : Nat} {ts : List Triangle}
    (h : m.draw list line ts = .error e) :
    m.newest = [] ∧ e = .noVertices list line ∨ ∃ index count, e = .invalidIndex index count := by
  rw [draw] at h
  split at h
  · rename_i hm
    exact .inl ⟨hm, (Except.error.inj h).symm⟩
  · right
    split_ifs at h <;> exact error_of_extend h

lemma error_of_load {l : VertexLoad} (h : m.load s l = .error e) :
    s.vertices.find? l.buffer = none ∧ e = .missingBuffer l.buffer ∨
      ∃ index count, e = .invalidIndex index count := by
  obtain h | ⟨vertices, -, h⟩ := error_of_bind h
  · rw [Setting.loadedVertices] at h
    split at h
    · rename_i hv
      exact .inl ⟨hv, (Except.error.inj h).symm⟩
    · dsimp only at h
      split_ifs at h
      exact .inr ⟨_, _, (Except.error.inj h).symm⟩
  · dsimp only at h
    split_ifs at h
    · cases h
    · exact .inr ⟨_, _, (Except.error.inj h).symm⟩

lemma error_of_apply {state : RenderState} {c : Command} (h : s.apply state c = .error e) :
    s.options.policy = .fail ∧ ∃ name, s.lights.find? name = none ∧
      (c = .lightPair name ∨ ∃ part slot, c = .light name part slot) ∧ e = .missingLight name := by
  have missing {name : String} (h : s.missingLight name state = .error e) :
      s.options.policy = .fail ∧ e = .missingLight name := by
    rw [Setting.missingLight] at h
    cases hp : s.options.policy <;> simp [hp] at h
    exact ⟨rfl, h.symm⟩
  cases c with
  | lightPair name =>
    rw [Setting.apply] at h
    split at h
    · rename_i hl
      obtain ⟨hp, he⟩ := missing h
      exact ⟨hp, name, hl, .inl rfl, he⟩
    · split at h <;> cases h
  | light name part slot =>
    rw [Setting.apply] at h
    split at h
    · rename_i hl
      obtain ⟨hp, he⟩ := missing h
      exact ⟨hp, name, hl, .inr ⟨part, slot, rfl⟩, he⟩
    · split at h <;> cases h
  | _ => cases h

lemma trouble_of_step {p : Placed} (h : m.step s p = .error e) : Trouble s m p e := by
  obtain ⟨list, line, c⟩ := p
  rw [step] at h
  split_ifs at h with ht
  · obtain ⟨hm, rfl⟩ | ⟨index, count, rfl⟩ := error_of_draw h
    · exact .empty ht hm
    · exact .index (.inl ht)
  · cases c with
    | load l =>
      obtain ⟨hv, rfl⟩ | ⟨index, count, rfl⟩ := error_of_load h
      · exact .buffer rfl hv
      · exact .index (.inr ⟨l, rfl⟩)
    | _ =>
      obtain h | ⟨r, -, h⟩ := error_of_bind h
      · obtain ⟨hp, name, hl, hc, rfl⟩ := error_of_apply h
        exact .light hp hl hc
      · cases h

end Machine

end

def Stops (r : Outcome) (e : Error) : Prop := ∃ log, r = .error ⟨e, log⟩

section

variable {s : Setting} {m : Machine} {e : Error} {r : Outcome} {f : Machine → Outcome}

lemma Stops.bind (h : Stops r e) : Stops (r >>= f) e := by
  obtain ⟨log, rfl⟩ := h
  exact ⟨log, rfl⟩

lemma stops_of_bind (h : Stops (r >>= f) e) : Stops r e ∨ ∃ m, r = .ok m ∧ Stops (f m) e := by
  cases r with
  | error stopped => exact .inl h
  | ok m => exact .inr ⟨m, rfl, h⟩

lemma stops_stop_iff {e' : Error} : Stops (m.stop e') e ↔ e' = e := by
  simp [Stops, Machine.stop]

lemma stops_lift_bind_iff {α : Type} {x : Except Error α} {f : α → Outcome} :
    Stops (m.lift x >>= f) e ↔ x = .error e ∨ ∃ a, x = .ok a ∧ Stops (f a) e := by
  cases x with
  | error e' =>
    change Stops (m.stop e') e ↔ _
    simp [stops_stop_iff]
  | ok a =>
    change Stops (f a) e ↔ _
    simp

end

namespace Setting

variable {s : Setting} {calls jumps : Nat} {name : String} {line : Nat} {script : List Line}
  {m m' : Machine} {q : Site} {e : Error}

section

variable {rest : List Line} {l : Line}

lemma visits_here (m : Machine) : s.Visits calls jumps name line (l :: rest) m
    ⟨calls, jumps, name, line, l⟩ m :=
  ⟨[], .here, rfl⟩

lemma Visits.blank (h : s.Visits calls jumps name (line + 1) rest m q m') :
    s.Visits calls jumps name line (.ok none :: rest) m q m' := by
  obtain ⟨cs, hr, hm⟩ := h
  exact ⟨cs, .blank hr, hm⟩

lemma Visits.plain {m₁ : Machine} {c : Command} (hc : c.isControl = false)
    (h₁ : m.step s ⟨name, line, c⟩ = .ok m₁)
    (h : s.Visits calls jumps name (line + 1) rest m₁ q m') :
    s.Visits calls jumps name line (.ok (some c) :: rest) m q m' := by
  obtain ⟨cs, hr, hm⟩ := h
  refine ⟨_ :: cs, .plain hc hr, ?_⟩
  rw [List.foldlM_cons, h₁]
  exact hm

lemma Visits.inCall {list : String} (hs : s.script list = .ok script)
    (h : s.Visits calls s.options.maxDepth list 0 script m q m') :
    s.Visits (calls + 1) jumps name line (.ok (some (.call list)) :: rest) m q m' := by
  obtain ⟨cs, hr, hm⟩ := h
  exact ⟨cs, .inCall hs hr, hm⟩

lemma Visits.afterCall {list : String} {cs : List Placed} {m₁ : Machine}
    (hs : s.script list = .ok script) (hl : s.Linear calls s.options.maxDepth list 0 script cs)
    (h₁ : cs.foldlM (Machine.step s) m = .ok m₁)
    (h : s.Visits (calls + 1) jumps name (line + 1) rest m₁ q m') :
    s.Visits (calls + 1) jumps name line (.ok (some (.call list)) :: rest) m q m' := by
  obtain ⟨ds, hr, hm⟩ := h
  refine ⟨cs ++ ds, .afterCall hs hl hr, ?_⟩
  rw [List.foldlM_append, h₁]
  exact hm

lemma Visits.jump {list : String} (hs : s.script list = .ok script)
    (h : s.Visits calls jumps list 0 script m q m') :
    s.Visits calls (jumps + 1) name line (.ok (some (.jump list)) :: rest) m q m' := by
  obtain ⟨cs, hr, hm⟩ := h
  exact ⟨cs, .jump hs hr, hm⟩

end

def ListFaults (s : Setting) (calls jumps : Nat) (list : String) (m : Machine) (e : Error) : Prop :=
  s.script list = .error e ∨
    ∃ script, s.script list = .ok script ∧ s.Faults calls jumps list 0 script m e

def CallFaults (s : Setting) (list : String) (m : Machine) (e : Error) : Nat → Prop
  | 0 => e = .tooDeep list
  | calls + 1 => s.ListFaults calls s.options.maxDepth list m e

def JumpFaults (s : Setting) (calls : Nat) (list : String) (m : Machine) (e : Error) : Nat → Prop
  | 0 => e = .tooDeep list
  | jumps + 1 => s.ListFaults calls jumps list m e

lemma faults_of_callFaults {list : String} {rest : List Line} (h : s.CallFaults list m e calls) :
    s.Faults calls jumps name line (.ok (some (.call list)) :: rest) m e := by
  cases calls with
  | zero =>
    obtain rfl : e = .tooDeep list := h
    exact ⟨_, m, visits_here m, .callTooDeep⟩
  | succ calls =>
    obtain h | ⟨script, hs, q, m', hv, hf⟩ := h
    · exact ⟨_, m, visits_here m, .call h⟩
    · exact ⟨q, m', hv.inCall hs, hf⟩

lemma faults_of_jumpFaults {list : String} {rest : List Line}
    (h : s.JumpFaults calls list m e jumps) :
    s.Faults calls jumps name line (.ok (some (.jump list)) :: rest) m e := by
  cases jumps with
  | zero =>
    obtain rfl : e = .tooDeep list := h
    exact ⟨_, m, visits_here m, .jumpTooDeep⟩
  | succ jumps =>
    obtain h | ⟨script, hs, q, m', hv, hf⟩ := h
    · exact ⟨_, m, visits_here m, .jump h⟩
    · exact ⟨q, m', hv.jump hs, hf⟩

def playCall (s : Setting) (calls : Nat) (list : String) (m : Machine) : Outcome :=
  (s.traceCall calls list).play s m

def playJump (s : Setting) (calls jumps : Nat) (list : String) (m : Machine) : Outcome :=
  (s.traceJump (s.traceCall calls) jumps list).play s m

def playLines (s : Setting) (calls jumps : Nat) (name : String) (line : Nat) (script : List Line)
    (m : Machine) : Outcome :=
  (traceLines (s.traceCall calls) (s.traceJump (s.traceCall calls) jumps) name line script).play s m

lemma playCall_succ (s : Setting) (calls : Nat) (list : String) (m : Machine) :
    s.playCall (calls + 1) list m = m.lift (s.script list) >>= fun script =>
      s.playLines calls s.options.maxDepth list 0 script m := by
  rw [playCall, traceCall, traceNested_eq, traceList_eq, play_traceScript]
  rfl

lemma playJump_succ (s : Setting) (calls jumps : Nat) (list : String) (m : Machine) :
    s.playJump calls (jumps + 1) list m = m.lift (s.script list) >>= fun script =>
      s.playLines calls jumps list 0 script m := by
  rw [playJump, traceJump, traceList_eq, play_traceScript]
  rfl

lemma playLines_plain {c : Command} (hc : c.isControl = false) (rest : List Line) (m : Machine) :
    s.playLines calls jumps name line (.ok (some c) :: rest) m =
      m.lift (m.step s ⟨name, line, c⟩) >>= s.playLines calls jumps name (line + 1) rest := by
  rw [playLines, traceLines_plain hc, play_cons]
  rfl

lemma playLines_call (list : String) (rest : List Line) (m : Machine) :
    s.playLines calls jumps name line (.ok (some (.call list)) :: rest) m =
      s.playCall calls list m >>= s.playLines calls jumps name (line + 1) rest := by
  rw [playLines, traceLines, play_append]
  rfl

lemma playLines_jump (list : String) (rest : List Line) (m : Machine) :
    s.playLines calls jumps name line (.ok (some (.jump list)) :: rest) m =
      s.playJump calls jumps list m :=
  rfl

lemma playLines_eq_ok_iff :
    s.playLines calls jumps name line script m = .ok m' ↔
      ∃ cs, s.Linear calls jumps name line script cs ∧ cs.foldlM (Machine.step s) m = .ok m' := by
  rw [playLines, play_eq_ok_iff]
  simp only [linear_iff_traceLines]
  obtain ⟨cs, f⟩ := traceLines (s.traceCall calls) (s.traceJump (s.traceCall calls) jumps) name line
    script
  simp

lemma faults_of_stops
    (hc : ∀ list m, Stops (s.playCall calls list m) e → s.CallFaults list m e calls)
    (hj : ∀ list m, Stops (s.playJump calls jumps list m) e → s.JumpFaults calls list m e jumps)
    (h : Stops (s.playLines calls jumps name line script m) e) :
    s.Faults calls jumps name line script m e := by
  induction script generalizing line m with
  | nil =>
    obtain ⟨log, h⟩ := h
    cases h
  | cons l rest ih =>
    have plain {c : Command} (hp : c.isControl = false)
        (h : Stops (s.playLines calls jumps name line (.ok (some c) :: rest) m) e) :
        s.Faults calls jumps name line (.ok (some c) :: rest) m e := by
      rw [playLines_plain hp] at h
      obtain hm | ⟨m₁, hm, h⟩ := stops_lift_bind_iff.1 h
      · exact ⟨_, m, visits_here m, .step hp hm⟩
      · obtain ⟨q, m', hv, hf⟩ := ih h
        exact ⟨q, m', hv.plain hp hm, hf⟩
    rcases l with e' | _ | c
    · obtain rfl : Error.decode name line e' = e := stops_stop_iff.1 h
      exact ⟨_, m, visits_here m, .decode⟩
    · obtain ⟨q, m', hv, hf⟩ := ih h
      exact ⟨q, m', hv.blank, hf⟩
    · cases c with
      | call list =>
        rw [playLines_call] at h
        obtain h | ⟨m₁, h₁, h⟩ := stops_of_bind h
        · exact faults_of_callFaults (hc list m h)
        · -- The call came back, so there was room for it, and its list has a linear form.
          cases calls with
          | zero => cases h₁
          | succ calls =>
            rw [playCall_succ] at h₁
            obtain ⟨script, hs, h₁⟩ := ok_of_bind h₁
            obtain ⟨cs, hl, hm⟩ := playLines_eq_ok_iff.1 h₁
            obtain ⟨q, m', hv, hf⟩ := ih h
            exact ⟨q, m', hv.afterCall (ok_of_lift hs) hl hm, hf⟩
      | jump list => exact faults_of_jumpFaults (hj list m h)
      | finish =>
        obtain ⟨log, h⟩ := h
        cases h
      | _ => exact plain rfl h

lemma jumpFaults_of_stops
    (hc : ∀ list m, Stops (s.playCall calls list m) e → s.CallFaults list m e calls)
    (list : String) (m : Machine) (h : Stops (s.playJump calls jumps list m) e) :
    s.JumpFaults calls list m e jumps := by
  induction jumps generalizing list m with
  | zero => exact (stops_stop_iff.1 h).symm
  | succ jumps ih =>
    rw [playJump_succ] at h
    obtain h | ⟨script, hs, h⟩ := stops_lift_bind_iff.1 h
    · exact .inl h
    · exact .inr ⟨script, hs, faults_of_stops hc ih h⟩

lemma callFaults_of_stops (calls : Nat) (list : String) (m : Machine)
    (h : Stops (s.playCall calls list m) e) : s.CallFaults list m e calls := by
  induction calls generalizing list m with
  | zero => exact (stops_stop_iff.1 h).symm
  | succ calls ih =>
    rw [playCall_succ] at h
    obtain h | ⟨script, hs, h⟩ := stops_lift_bind_iff.1 h
    · exact .inl h
    · exact .inr ⟨script, hs, faults_of_stops ih (jumpFaults_of_stops ih) h⟩

lemma stops_of_fails (h : q.Fails s m e) (rest : List Line) :
    Stops (s.playLines q.calls q.jumps q.list q.line (q.content :: rest) m) e := by
  cases h with
  | decode => exact stops_stop_iff.2 rfl
  | callTooDeep =>
    rw [playLines_call]
    apply Stops.bind
    exact stops_stop_iff.2 rfl
  | call hs =>
    rw [playLines_call, playCall_succ]
    apply Stops.bind
    exact stops_lift_bind_iff.2 (.inl hs)
  | jumpTooDeep => exact stops_stop_iff.2 rfl
  | jump hs =>
    rw [playLines_jump, playJump_succ]
    exact stops_lift_bind_iff.2 (.inl hs)
  | step hp hm =>
    rw [playLines_plain hp]
    exact stops_lift_bind_iff.2 (.inl hm)

lemma stops_of_reaches {cs : List Placed} (h : s.Reaches calls jumps name line script cs q)
    (hm : cs.foldlM (Machine.step s) m = .ok m') (hf : q.Fails s m' e) :
    Stops (s.playLines calls jumps name line script m) e := by
  induction h generalizing m with
  | here =>
    obtain rfl := Except.ok.inj hm
    exact stops_of_fails hf _
  | blank _ ih => exact ih hm hf
  | plain hp _ ih =>
    obtain ⟨m₁, h₁, hm⟩ := ok_of_bind hm
    rw [playLines_plain hp]
    exact stops_lift_bind_iff.2 (.inr ⟨m₁, h₁, ih hm hf⟩)
  | inCall hs _ ih =>
    rw [playLines_call, playCall_succ]
    apply Stops.bind
    exact stops_lift_bind_iff.2 (.inr ⟨_, hs, ih hm hf⟩)
  | afterCall hs hl _ ih =>
    rw [List.foldlM_append] at hm
    obtain ⟨m₁, h₁, hm⟩ := ok_of_bind hm
    have hcall := playLines_eq_ok_iff.2 ⟨_, hl, h₁⟩
    rw [playLines_call, playCall_succ, hs]
    change Stops (s.playLines _ _ _ _ _ m >>= _) e
    rw [hcall]
    exact ih hm hf
  | jump hs _ ih =>
    rw [playLines_jump, playJump_succ]
    exact stops_lift_bind_iff.2 (.inr ⟨_, hs, ih hm hf⟩)

end Setting

section

variable {s : Setting} {root : String} {e : Error}

lemma interpret_eq_error_iff :
    (interpret s root).1 = .error e ↔ Stops (runNested s true s.options.maxDepth root {}) e := by
  rw [interpret, interpretWith]
  cases h : runNested s true s.options.maxDepth root {} with
  | ok m => simp [Stops]
  | error stopped =>
    obtain ⟨e', log⟩ := stopped
    simp [Stops]

lemma error_iff_faults :
    (interpret s root).1 = .error e ↔
      s.ListFaults s.options.maxDepth s.options.maxDepth root {} e := by
  rw [interpret_eq_error_iff, runNested_eq_play]
  change Stops (s.playCall (s.options.maxDepth + 1) root {}) e ↔ _
  constructor
  · exact Setting.callFaults_of_stops _ _ _
  · rw [Setting.playCall_succ, stops_lift_bind_iff]
    rintro (h | ⟨script, hs, q, m, ⟨cs, hr, hm⟩, hf⟩)
    · exact .inl h
    · exact .inr ⟨script, hs, Setting.stops_of_reaches hr hm hf⟩

end

end SceneDraw.DisplayList
