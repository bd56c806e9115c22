import SceneDraw.Proofs.DisplayList.Partition

/-! A display list without its control flow. Its linear form holds the commands of the lines that are
visited: those of a called list stand in place of the call, those of the target of a jump in place of
the jump and of all that follows it. A run succeeds if and only if its list has a linear form within
the limits on calls and jumps and the commands of this form succeed one after another. -/

namespace SceneDraw.DisplayList

def Command.isControl : Command → Bool
  | call _ | jump _ | finish => true
  | _ => false

def Command.isExit : Command → Bool
  | jump _ | finish => true
  | _ => false

namespace Setting

/--
The commands of the lines of the list `name` from the given line on, with room for the given number
of nested calls and of jumps. A called list has all its jumps before it.
-/
inductive Linear (s : Setting) : Nat → Nat → String → Nat → List Line → List Placed → Prop
  | nil {calls jumps : Nat} {name : String} {line : Nat} :
      s.Linear calls jumps name line [] []
  | blank {calls jumps : Nat} {name : String} {line : Nat} {rest : List Line} {cs : List Placed} :
      s.Linear calls jumps name (line + 1) rest cs →
      s.Linear calls jumps name line (.ok none :: rest) cs
  | call {calls jumps : Nat} {name : String} {line : Nat} {rest : List Line} {cs ds : List Placed}
      {list : String} {script : List Line} :
      s.script list = .ok script →
      s.Linear calls s.options.maxDepth list 0 script cs →
      s.Linear (calls + 1) jumps name (line + 1) rest ds →
      s.Linear (calls + 1) jumps name line (.ok (some (.call list)) :: rest) (cs ++ ds)
  | jump {calls jumps : Nat} {name : String} {line : Nat} {rest : List Line} {cs : List Placed}
      {list : String} {script : List Line} :
      s.script list = .ok script →
      s.Linear calls jumps list 0 script cs →
      s.Linear calls (jumps + 1) name line (.ok (some (.jump list)) :: rest) cs
  | finish {calls jumps : Nat} {name : String} {line : Nat} {rest : List Line} :
      s.Linear calls jumps name line (.ok (some .finish) :: rest) []
  | plain {calls jumps : Nat} {name : String} {line : Nat} {rest : List Line} {cs : List Placed}
      {c : Command} :
      c.isControl = false →
      s.Linear calls jumps name (line + 1) rest cs →
      s.Linear calls jumps name line (.ok (some c) :: rest) (⟨name, line, c⟩ :: cs)

def Linearizes (s : Setting) (root : String) (cs : List Placed) : Prop :=
  ∃ script, s.script root = .ok script ∧
    s.Linear s.options.maxDepth s.options.maxDepth root 0 script cs

def withScript (s : Setting) (list : String) (script : List Line) : Setting :=
  { s with script := Function.update s.script list (.ok script) }

variable {s : Setting} {calls jumps : Nat} {name : String} {line : Nat} {script : List Line}
  {cs ds : List Placed}

lemma Linear.unique {calls' jumps' : Nat} (h : s.Linear calls jumps name line script cs)
    (h' : s.Linear calls' jumps' name line script ds) : cs = ds := by
  induction h generalizing calls' jumps' ds with
  | nil => cases h'; rfl
  | blank _ ih =>
    cases h' with
    | blank h' => exact ih h'
  | call hs _ _ ihc ih =>
    cases h' with
    | call hs' hc' h' =>
      obtain rfl := Except.ok.inj (hs.symm.trans hs')
      rw [ihc hc', ih h']
    | plain hp _ => cases hp
  | jump hs _ ih =>
    cases h' with
    | jump hs' h' =>
      obtain rfl := Except.ok.inj (hs.symm.trans hs')
      exact ih h'
    | plain hp _ => cases hp
  | finish =>
    cases h' with
    | finish => rfl
    | plain hp _ => cases hp
  | plain hp _ ih =>
    cases h' with
    | plain _ h' => rw [ih h']
    | _ => cases hp

def traceCall (s : Setting) : Nat → String → Trace
  | 0 => fun list => .failing (.tooDeep list)
  | calls + 1 => s.traceNested calls

def traceJump (s : Setting) (call : String → Trace) : Nat → String → Trace
  | 0 => fun list => .failing (.tooDeep list)
  | jumps + 1 => s.traceList call jumps

lemma traceList_eq (call : String → Trace) (jumps : Nat) :
    s.traceList call jumps = s.traceScript call (s.traceJump call jumps) := by
  cases jumps <;> rfl

lemma traceNested_eq (calls : Nat) :
    s.traceNested calls = s.traceList (s.traceCall calls) s.options.maxDepth := by
  cases calls <;> rfl

lemma traceScript_eq_iff {call jump : String → Trace} :
    s.traceScript call jump name = ⟨cs, none⟩ ↔
      ∃ script, s.script name = .ok script ∧ traceLines call jump name 0 script = ⟨cs, none⟩ := by
  rw [traceScript]
  cases s.script name <;> simp [Trace.failing]

lemma append_eq_iff {t u : Trace} :
    t.append u = ⟨cs, none⟩ ↔ ∃ ds es, t = ⟨ds, none⟩ ∧ u = ⟨es, none⟩ ∧ cs = ds ++ es := by
  obtain ⟨ds, _ | e⟩ := t
  · obtain ⟨es, f⟩ := u
    simp [Trace.append, eq_comm, and_left_comm, and_comm]
  · simp [Trace.append]

lemma cons_eq_iff {p : Placed} {t : Trace} :
    t.cons p = ⟨cs, none⟩ ↔ ∃ ds, t = ⟨ds, none⟩ ∧ cs = p :: ds := by
  obtain ⟨ds, f⟩ := t
  simp [Trace.cons, eq_comm, and_comm]

lemma traceLines_plain {call jump : String → Trace} {c : Command} (h : c.isControl = false) :
    traceLines call jump name line (.ok (some c) :: script) =
      (traceLines call jump name (line + 1) script).cons ⟨name, line, c⟩ := by
  cases c <;> first | rfl | cases h

lemma traceLines_of_linear (h : s.Linear calls jumps name line script cs) :
    traceLines (s.traceCall calls) (s.traceJump (s.traceCall calls) jumps) name line script =
      ⟨cs, none⟩ := by
  induction h with
  | nil => rfl
  | blank _ ih => exact ih
  | call hs _ _ ihc ih =>
    have hl := traceScript_eq_iff.2 ⟨_, hs, ihc⟩
    rw [← traceList_eq, ← traceNested_eq] at hl
    rw [traceLines, ih, traceCall, hl]
    rfl
  | jump hs _ ih =>
    rw [traceLines, traceJump, traceList_eq, traceScript_eq_iff]
    exact ⟨_, hs, ih⟩
  | finish => rfl
  | plain hp _ ih =>
    rw [traceLines_plain hp, ih]
    rfl

lemma linear_of_traceLines
    (hc : ∀ list ds, s.traceCall calls list = ⟨ds, none⟩ → ∃ calls' script, calls = calls' + 1 ∧
      s.script list = .ok script ∧ s.Linear calls' s.options.maxDepth list 0 script ds)
    (hj : ∀ list ds, s.traceJump (s.traceCall calls) jumps list = ⟨ds, none⟩ →
      ∃ jumps' script, jumps = jumps' + 1 ∧ s.script list = .ok script ∧
        s.Linear calls jumps' list 0 script ds)
    (h : traceLines (s.traceCall calls) (s.traceJump (s.traceCall calls) jumps) name line script =
      ⟨cs, none⟩) :
    s.Linear calls jumps name line script cs := by
  induction script generalizing line cs with
  | nil =>
    obtain rfl : [] = cs := (Trace.mk.inj h).1
    exact .nil
  | cons l rest ih =>
    have plain {c : Command} (hp : c.isControl = false)
        (hl : traceLines (s.traceCall calls) (s.traceJump (s.traceCall calls) jumps) name line
          (.ok (some c) :: rest) = ⟨cs, none⟩) :
        s.Linear calls jumps name line (.ok (some c) :: rest) cs := by
      rw [traceLines_plain hp, cons_eq_iff] at hl
      obtain ⟨ds, hd, rfl⟩ := hl
      exact .plain hp (ih hd)
    rcases l with e | _ | c
    · simp [traceLines, Trace.failing] at h
    · exact .blank (ih h)
    · cases c with
      | call list =>
        rw [traceLines, append_eq_iff] at h
        obtain ⟨ds, es, hd, he, rfl⟩ := h
        obtain ⟨calls', script, rfl, hs, hl⟩ := hc list ds hd
        exact .call hs hl (ih he)
      | jump list =>
        obtain ⟨jumps', script, rfl, hs, hl⟩ := hj list cs h
        exact .jump hs hl
      | finish =>
        obtain rfl : [] = cs := (Trace.mk.inj h).1
        exact .finish
      | _ => exact plain rfl h

lemma linear_of_traceCall
    (hc : ∀ list ds, s.traceCall calls list = ⟨ds, none⟩ → ∃ calls' script, calls = calls' + 1 ∧
      s.script list = .ok script ∧ s.Linear calls' s.options.maxDepth list 0 script ds)
    (h : traceLines (s.traceCall calls) (s.traceJump (s.traceCall calls) jumps) name line script =
      ⟨cs, none⟩) :
    s.Linear calls jumps name line script cs := by
  induction jumps generalizing name line script cs with
  | zero => exact linear_of_traceLines hc (by simp [traceJump, Trace.failing]) h
  | succ jumps ih =>
    refine linear_of_traceLines hc (fun list ds hd => ?_) h
    rw [traceJump, traceList_eq, traceScript_eq_iff] at hd
    obtain ⟨script, hs, hd⟩ := hd
    exact ⟨jumps, script, rfl, hs, ih hd⟩

lemma linear_iff_traceLines :
    s.Linear calls jumps name line script cs ↔
      traceLines (s.traceCall calls) (s.traceJump (s.traceCall calls) jumps) name line script =
        ⟨cs, none⟩ := by
  refine ⟨traceLines_of_linear, fun h => ?_⟩
  induction calls generalizing jumps name line script cs with
  | zero => exact linear_of_traceCall (by simp [traceCall, Trace.failing]) h
  | succ calls ih =>
    refine linear_of_traceCall (fun list ds hd => ?_) h
    rw [traceCall, traceNested_eq, traceList_eq, traceScript_eq_iff] at hd
    obtain ⟨script, hs, hd⟩ := hd
    exact ⟨calls, script, rfl, hs, ih hd⟩

lemma linearizes_iff_trace {root : String} : s.Linearizes root cs ↔ s.trace root = ⟨cs, none⟩ := by
  rw [trace, traceNested_eq, traceList_eq, traceScript_eq_iff, Linearizes]
  simp only [linear_iff_traceLines]

lemma Linearizes.unique {root : String} (h : s.Linearizes root cs) (h' : s.Linearizes root ds) :
    cs = ds := by
  obtain ⟨script, hs, h⟩ := h
  obtain ⟨script', hs', h'⟩ := h'
  obtain rfl := Except.ok.inj (hs.symm.trans hs')
  exact h.unique h'

end Setting

section

variable {s : Setting} {m m' : Machine} {root : String} {batches : List Batch}

lemma foldlM_lift_eq_ok_iff {ps : List Placed} :
    ps.foldlM (fun m p => m.lift (m.step s p)) m = .ok m' ↔
      ps.foldlM (Machine.step s) m = .ok m' := by
  induction ps generalizing m with
  | nil => simp [pure, Except.pure]
  | cons p ps ih =>
    rw [List.foldlM_cons, List.foldlM_cons]
    cases m.step s p with
    | error e => simp [Machine.lift, Machine.stop, bind, Except.bind]
    | ok m₁ => exact ih

lemma play_eq_ok_iff {t : Trace} :
    t.play s m = .ok m' ↔ t.fault = none ∧ t.commands.foldlM (Machine.step s) m = .ok m' := by
  rw [← foldlM_lift_eq_ok_iff]
  refine ⟨ok_of_play, fun ⟨hf, h⟩ => ?_⟩
  rw [Trace.play, h, hf]
  rfl

lemma interpret_eq_ok_iff :
    (interpret s root).1 = .ok batches ↔
      ∃ m, runNested s true s.options.maxDepth root {} = .ok m ∧ m.batches = batches := by
  rw [interpret, interpretWith]
  cases runNested s true s.options.maxDepth root {} <;> simp

lemma ok_iff_linearizes :
    (interpret s root).1 = .ok batches ↔ ∃ cs m, s.Linearizes root cs ∧
      cs.foldlM (Machine.step s) {} = .ok m ∧ m.batches = batches := by
  simp only [interpret_eq_ok_iff, runNested_eq_play, play_eq_ok_iff, Setting.linearizes_iff_trace]
  change (∃ m, ((s.trace root).fault = none ∧ (s.trace root).commands.foldlM _ _ = _) ∧ _) ↔ _
  obtain ⟨cs, f⟩ := s.trace root
  simp [and_assoc]

end

def linesOf (cs : List Placed) : List Line := cs.map fun p => .ok (some p.command)

namespace Setting

/-- The second script comes from the first by putting commands of called lists for their calls. -/
inductive Unfolds (s : Setting) : List Line → List Line → Prop
  | nil : s.Unfolds [] []
  | keep {l : Line} {rest rest' : List Line} :
      s.Unfolds rest rest' → s.Unfolds (l :: rest) (l :: rest')
  | call {list : String} {cs : List Placed} {rest rest' : List Line} :
      s.Linearizes list cs → s.Unfolds rest rest' →
      s.Unfolds (.ok (some (.call list)) :: rest) (linesOf cs ++ rest')

def Denotes (s : Setting) (calls jumps : Nat) (script : List Line) (cs : List Command) : Prop :=
  ∀ name line, ∃ ds, s.Linear calls jumps name line script ds ∧ ds.map (·.command) = cs

variable {s s' : Setting} {calls jumps : Nat} {name : String} {line : Nat}
  {script script' rest : List Line} {cs ds : List Placed} {es : List Command}

lemma Unfolds.refl (s : Setting) (script : List Line) : s.Unfolds script script := by
  induction script with
  | nil => exact .nil
  | cons l rest ih => exact .keep ih

lemma Unfolds.append_left (pre : List Line) (h : s.Unfolds script script') :
    s.Unfolds (pre ++ script) (pre ++ script') := by
  induction pre with
  | nil => exact h
  | cons l pre ih => exact .keep ih

lemma Denotes.append_left (hc : ∀ p ∈ cs, p.command.isControl = false)
    (h : s.Denotes calls jumps rest es) :
    s.Denotes calls jumps (linesOf cs ++ rest) (cs.map (·.command) ++ es) := by
  induction cs with
  | nil => exact h
  | cons p cs ih =>
    intro name line
    obtain ⟨hp, hc⟩ := List.forall_mem_cons.1 hc
    obtain ⟨ds, hd, he⟩ := ih hc name (line + 1)
    exact ⟨⟨name, line, p.command⟩ :: ds, .plain hp hd, by simp [he]⟩

lemma Linear.isControl (h : s.Linear calls jumps name line script cs) :
    ∀ p ∈ cs, p.command.isControl = false := by
  induction h with
  | nil => simp
  | blank _ ih => exact ih
  | call _ _ _ ihc ih => exact List.forall_mem_append.2 ⟨ihc, ih⟩
  | jump _ _ ih => exact ih
  | finish => simp
  | plain hp _ ih => exact List.forall_mem_cons.2 ⟨hp, ih⟩

lemma Linear.unfold (h : s.Linear calls jumps name line script cs) (hu : s.Unfolds script script')
    (hs : ∀ list script, s.script list = .ok script →
      ∃ script', s'.script list = .ok script' ∧ s.Unfolds script script')
    (hm : s'.options.maxDepth = s.options.maxDepth) :
    s'.Denotes calls jumps script' (cs.map (·.command)) := by
  induction h generalizing script' with
  | nil =>
    intro name line
    cases hu
    exact ⟨[], .nil, rfl⟩
  | blank _ ih =>
    intro name line
    cases hu with
    | keep hu =>
      obtain ⟨ds, hd, he⟩ := ih hu name (line + 1)
      exact ⟨ds, .blank hd, he⟩
  | call hl hc _ ihc ih =>
    cases hu with
    | keep hu =>
      intro name line
      obtain ⟨script₁, hs₁, hu₁⟩ := hs _ _ hl
      obtain ⟨ds₁, hd₁, he₁⟩ := ihc hu₁ _ 0
      obtain ⟨ds₂, hd₂, he₂⟩ := ih hu name (line + 1)
      exact ⟨ds₁ ++ ds₂, .call hs₁ (hm ▸ hd₁) hd₂, by simp [he₁, he₂]⟩
    | call hl' hu =>
      -- The commands that were put in are those that the call leads to here.
      obtain ⟨script₁, hs₁, hc'⟩ := hl'
      obtain rfl := Except.ok.inj (hl.symm.trans hs₁)
      obtain rfl := hc.unique hc'
      rw [List.map_append]
      exact (ih hu).append_left hc.isControl
  | jump hl _ ih =>
    intro name line
    cases hu with
    | keep hu =>
      obtain ⟨script₁, hs₁, hu₁⟩ := hs _ _ hl
      obtain ⟨ds, hd, he⟩ := ih hu₁ _ 0
      exact ⟨ds, .jump hs₁ hd, he⟩
  | finish =>
    intro name line
    cases hu with
    | keep hu => exact ⟨[], .finish, rfl⟩
  | plain hp _ ih =>
    intro name line
    cases hu with
    | keep hu =>
      obtain ⟨ds, hd, he⟩ := ih hu name (line + 1)
      exact ⟨⟨name, line, _⟩ :: ds, .plain hp hd, by simp [he]⟩
    | call _ _ => cases hp

lemma Linearizes.unfold {root : String} (h : s.Linearizes root cs)
    (hs : ∀ list script, s.script list = .ok script →
      ∃ script', s'.script list = .ok script' ∧ s.Unfolds script script')
    (hm : s'.options.maxDepth = s.options.maxDepth) :
    ∃ ds, s'.Linearizes root ds ∧ ds.map (·.command) = cs.map (·.command) := by
  obtain ⟨script, hl, h⟩ := h
  obtain ⟨script', hl', hu⟩ := hs root script hl
  obtain ⟨ds, hd, he⟩ := h.unfold hu hs hm root 0
  exact ⟨ds, ⟨script', hl', hm ▸ hd⟩, he⟩

section

variable {list callee : String} {pre post post' : List Line} {c : Command}

lemma unfolds_withScript (hs : s.script list = .ok (pre ++ .ok (some (.call callee)) :: post))
    (hc : s.Linearizes callee cs) (name : String) (script : List Line)
    (h : s.script name = .ok script) :
    ∃ script', (s.withScript list (pre ++ linesOf cs ++ post)).script name = .ok script' ∧
      s.Unfolds script script' := by
  by_cases hn : name = list
  · subst hn
    obtain rfl := Except.ok.inj (hs.symm.trans h)
    refine ⟨pre ++ linesOf cs ++ post, by simp [withScript], ?_⟩
    rw [List.append_assoc]
    exact (Unfolds.call hc (.refl s post)).append_left pre
  · exact ⟨script, by simp [withScript, hn, h], .refl s script⟩

lemma traceLines_of_isExit {call jump : String → Trace} (hc : c.isExit) :
    traceLines call jump name line (pre ++ .ok (some c) :: post) =
      traceLines call jump name line (pre ++ .ok (some c) :: post') := by
  induction pre generalizing line with
  | nil => cases c <;> first | rfl | cases hc
  | cons l pre ih =>
    rcases l with e | _ | d
    · rfl
    · exact ih
    · cases d <;> simp only [List.cons_append, traceLines, ih]

lemma traceScript_of_isExit (hc : c.isExit)
    (hs : s.script list = .ok (pre ++ .ok (some c) :: post)) :
    (s.withScript list (pre ++ .ok (some c) :: post')).traceScript = s.traceScript := by
  funext call jump name
  rw [traceScript, traceScript]
  by_cases hn : name = list
  · subst hn
    simp only [withScript, Function.update_self, hs]
    exact traceLines_of_isExit hc
  · simp only [withScript, Function.update_of_ne hn]

lemma traceNested_of_traceScript (h : s'.traceScript = s.traceScript)
    (hm : s'.options.maxDepth = s.options.maxDepth) (calls : Nat) :
    s'.traceNested calls = s.traceNested calls := by
  have hl (call : String → Trace) (jumps : Nat) :
      s'.traceList call jumps = s.traceList call jumps := by
    induction jumps with
    | zero => rw [traceList, traceList, h]
    | succ jumps ih => rw [traceList, traceList, h, ih]
  induction calls with
  | zero => rw [traceNested, traceNested, hl, hm]
  | succ calls ih => rw [traceNested, traceNested, hl, hm, ih]

end

end Setting

section

variable {s : Setting} {m m' : Machine} {root : String}

lemma Machine.step_of_command_eq {p q : Placed} (h : q.command = p.command)
    (hm : m.step s p = .ok m') : m.step s q = .ok m' := by
  rw [step, h]
  rw [step] at hm
  split_ifs at hm ⊢ with ht
  · -- Only the error of a triangle without vertices says where the command stands.
    rw [draw] at hm ⊢
    split at hm
    · cases hm
    · exact hm
  · exact hm

lemma foldlM_step_of_commands_eq {ps qs : List Placed}
    (h : qs.map (·.command) = ps.map (·.command))
    (hm : ps.foldlM (Machine.step s) m = .ok m') : qs.foldlM (Machine.step s) m = .ok m' := by
  induction ps generalizing qs m with
  | nil =>
    obtain rfl := List.map_eq_nil_iff.1 h
    exact hm
  | cons p ps ih =>
    obtain ⟨q, qs, rfl, hq, hqs⟩ := List.map_eq_cons_iff.1 h
    rw [List.foldlM_cons] at hm ⊢
    obtain ⟨m₁, h₁, hm⟩ := ok_of_bind hm
    rw [Machine.step_of_command_eq hq h₁]
    exact ih hqs hm

end

theorem interpret_linearizes (s : Setting) (root : String) :
    (∀ batches, (interpret s root).1 = .ok batches ↔ ∃ cs m, s.Linearizes root cs ∧
      cs.foldlM (Machine.step s) {} = .ok m ∧ m.batches = batches) ∧
    (∀ list callee pre post cs,
      s.script list = .ok (pre ++ .ok (some (.call callee)) :: post) → s.Linearizes callee cs →
      (∃ ds, s.Linearizes root ds) → ∀ batches,
        (interpret (s.withScript list (pre ++ linesOf cs ++ post)) root).1 = .ok batches ↔
          (interpret s root).1 = .ok batches) ∧
    ∀ list pre c post post', c.isExit → s.script list = .ok (pre ++ .ok (some c) :: post) →
      interpret (s.withScript list (pre ++ .ok (some c) :: post')) root = interpret s root := by
  refine ⟨fun batches => ok_iff_linearizes, ?_, ?_⟩
  · rintro list callee pre post cs hs hc ⟨ds, hd⟩ batches
    have hu := Setting.unfolds_withScript hs hc
    obtain ⟨es, he, hds⟩ := hd.unfold hu rfl
    rw [ok_iff_linearizes, ok_iff_linearizes]
    constructor
    · rintro ⟨es', m, he', hm, hb⟩
      obtain rfl := he.unique he'
      exact ⟨ds, m, hd, foldlM_step_of_commands_eq hds.symm hm, hb⟩
    · rintro ⟨ds', m, hd', hm, hb⟩
      obtain rfl := hd.unique hd'
      exact ⟨es, m, he, foldlM_step_of_commands_eq hds hm, hb⟩
  · intro list pre c post post' hc hs
    have hscript : (s.withScript list (pre ++ .ok (some c) :: post')).traceScript = s.traceScript :=
      Setting.traceScript_of_isExit hc hs
    have ht (calls : Nat) := Setting.traceNested_of_traceScript hscript rfl calls
    simp only [interpret, interpretWith, runNested_eq_play, ht]
    rfl

theorem interpret_linearizes_relay : ∃ cs batches,
    Setting.relay.Linearizes "child" cs ∧ cs.length = 7 ∧
      (interpret .relay "root").1 = .ok batches ∧
      (interpret (Setting.relay.withScript "root"
        (List.map (.ok ∘ some) [.load ⟨"buffer", 0, 3, 0⟩, .environment ⟨1, 0, 0, 0⟩,
            .triangle ⟨0, 1, 2⟩] ++ linesOf cs ++
          List.map (.ok ∘ some) [.triangle ⟨0, 1, 2⟩, .twoTriangles ⟨2, 1, 0⟩ ⟨0, 3, 1⟩]))
        "root").1 = .ok batches ∧
      interpret (Setting.relay.withScript "tail"
        (List.map (.ok ∘ some) [.load ⟨"buffer", 1, 3, 1⟩, .environment ⟨3, 0, 0, 0⟩,
            .triangle ⟨0, 1, 3⟩, .environment ⟨1, 0, 0, 0⟩] ++
          .ok (some .finish) :: [.error .unbalanced])) "root" = interpret .relay "root" := by
  obtain ⟨batches, hb⟩ : ∃ batches, (interpret .relay "root").1 = .ok batches := ⟨_, rfl⟩
  obtain ⟨hiff, hcall, hexit⟩ := interpret_linearizes .relay "root"
  obtain ⟨ds, -, hd, -⟩ := (hiff batches).1 hb
  have hc : Setting.relay.Linearizes "child" (Setting.relay.trace "child").commands :=
    Setting.linearizes_iff_trace.2 rfl
  exact ⟨_, batches, hc, rfl, hb, (hcall _ _ _ _ _ rfl hc ⟨ds, hd⟩ batches).2 hb,
    hexit _ _ _ _ _ rfl rfl⟩

end SceneDraw.DisplayList
