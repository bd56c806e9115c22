import SceneDraw.Proofs.DisplayList.Activation

/-! The run of a display list always ends, though nothing keeps lists from calling and jumping to
each other forever. Calls nest up to the limit only, and so many jumps only follow a call, so each
active list pays with the lines and the jumps that are left for all that it calls. A run is stopped
for its depth just where it is about to go over the limit. -/

namespace SceneDraw.DisplayList

section

variable {sources : Sources} {name : String}

lemma scripts_eq_ok_iff {script : List Line} : scripts sources.lookup name = .ok script ↔
    ∃ lines, sources.displayLists.find? name = some lines ∧ lines.map decodeLine = script := by
  simp only [scripts, Sources.lookup, Sources.table]
  cases sources.displayLists.find? name <;> simp

lemma scripts_eq_error_iff {e : Error} : scripts sources.lookup name = .error e ↔
    sources.displayLists.find? name = none ∧ e = .missingList name := by
  simp only [scripts, Sources.lookup, Sources.table, Error.ofLookup]
  cases sources.displayLists.find? name <;> simp [eq_comm]

lemma length_le_of_scripts {script : List Line} (h : scripts sources.lookup name = .ok script) :
    script.length ≤ sources.longest .displayList := by
  obtain ⟨lines, hfind, rfl⟩ := scripts_eq_ok_iff.1 h
  rw [List.length_map]
  exact Sources.length_le_longest hfind

end

/-- The jumps taken in each call, the latest call first. The root counts as the first call. -/
def RunState.counts (c : RunState) : List Nat := c.active.map (·.jumps)

def countsAfter : Option Line → List Nat → List Nat
  | some (.ok (some (.call _))), counts => 0 :: counts
  | some (.ok (some (.jump _))), n :: counts => (n + 1) :: counts
  | none, _ :: counts | some (.ok (some .finish)), _ :: counts => counts
  | _, counts => counts

def Activation.linesLeft (longest maxDepth : Nat) (a : Activation) : Nat :=
  a.rest.length + (maxDepth - a.jumps) * longest

def RunState.weight (longest maxDepth : Nat) (c : RunState) : Nat :=
  stackWeight ((maxDepth + 1) * longest + 2) (maxDepth + 1)
    (c.active.map (·.linesLeft longest maxDepth))

namespace Setting

variable {s : Setting} {c c' : RunState} {e : Error} {root : String}

lemma Moves.counts_eq (h : s.Moves c c') : c'.counts = countsAfter c.line? c.counts := by
  cases h with
  | leave hr =>
    obtain hr | ⟨rest, hr⟩ := hr <;> simp [RunState.line?, RunState.counts, hr, countsAfter]
  | blank hr => simp [RunState.line?, RunState.counts, hr, countsAfter, Activation.goOn]
  | @plain a callers m m' d rest hr hd _ =>
    have hl : (RunState.mk (a :: callers) m).line? = some (.ok (some d)) :=
      RunState.line?_eq_some_iff.2 ⟨a, callers, rest, rfl, hr⟩
    rw [hl]
    cases d <;> first | rfl | cases hd
  | call hr => simp [RunState.line?, RunState.counts, hr, countsAfter, Activation.goOn]
  | jump hr => simp [RunState.line?, RunState.counts, hr, countsAfter]

section

variable {longest maxDepth : Nat} {a b : Activation}

lemma weight_enter_lt {script : List Line} (list : String) (hscript : script.length ≤ longest)
    (callers : List Activation) (hcallers : callers.length ≤ maxDepth) (m : Machine) :
    (RunState.mk (⟨list, 0, script, 0⟩ :: callers) m).weight longest maxDepth <
      ((maxDepth + 1) * longest + 2) ^ (maxDepth + 1 - callers.length + 1) +
        (RunState.mk callers m).weight longest maxDepth := by
  have hsize : (callers.map (·.linesLeft longest maxDepth)).length < maxDepth + 1 := by
    rw [List.length_map]
    omega
  have hbase : script.length + maxDepth * longest + 2 ≤ (maxDepth + 1) * longest + 2 := by
    rw [Nat.succ_mul]
    omega
  simpa [RunState.weight, Activation.linesLeft] using stackWeight_push hsize hbase

lemma weight_line_lt (h : b.linesLeft longest maxDepth < a.linesLeft longest maxDepth)
    (callers : List Activation) (m m' : Machine) :
    ((maxDepth + 1) * longest + 2) ^ (maxDepth + 1 - callers.length) +
        (RunState.mk (b :: callers) m').weight longest maxDepth <
      (RunState.mk (a :: callers) m).weight longest maxDepth := by
  have hline := stackWeight_line ((maxDepth + 1) * longest + 2) (maxDepth + 1)
    (callers.map (·.linesLeft longest maxDepth)) h
  rwa [List.length_map] at hline

lemma linesLeft_goOn (longest maxDepth : Nat) {l : Line} {rest : List Line}
    (hr : a.rest = l :: rest) :
    (a.goOn rest).linesLeft longest maxDepth < a.linesLeft longest maxDepth := by
  simp only [Activation.linesLeft, Activation.goOn, hr, List.length_cons]
  omega

lemma linesLeft_jump {l : Line} {rest script : List Line} {list : String} (hr : a.rest = l :: rest)
    (hj : a.jumps < maxDepth) (hscript : script.length ≤ longest) :
    (Activation.mk list 0 script (a.jumps + 1)).linesLeft longest maxDepth <
      a.linesLeft longest maxDepth := by
  have hsub : maxDepth - a.jumps = maxDepth - (a.jumps + 1) + 1 := by omega
  simp only [Activation.linesLeft, hr, List.length_cons, hsub, Nat.succ_mul]
  omega

end

lemma Moves.weight_lt {longest : Nat} (h : s.Moves c c')
    (hs : ∀ list script, s.script list = .ok script → script.length ≤ longest) :
    c'.weight longest s.options.maxDepth < c.weight longest s.options.maxDepth := by
  cases h with
  | leave => exact stackWeight_pop
  | blank hr =>
    have hline := weight_line_lt (linesLeft_goOn longest s.options.maxDepth hr)
    exact Nat.lt_of_le_of_lt (Nat.le_add_left _ _) (hline _ _ _)
  | plain hr =>
    have hline := weight_line_lt (linesLeft_goOn longest s.options.maxDepth hr)
    exact Nat.lt_of_le_of_lt (Nat.le_add_left _ _) (hline _ _ _)
  | @call a callers m list rest script hr hd hscript =>
    have henter := weight_enter_lt list (hs _ _ hscript) (a.goOn rest :: callers) hd m
    have hline := weight_line_lt (linesLeft_goOn longest s.options.maxDepth hr) callers m m
    have hroom : s.options.maxDepth + 1 - (callers.length + 1) + 1 =
        s.options.maxDepth + 1 - callers.length := by omega
    rw [List.length_cons, hroom] at henter
    exact Nat.lt_trans henter hline
  | jump hr hj hscript =>
    -- A jump gives up its list, so it is paid for out of the lines that its call has left.
    exact Nat.lt_of_le_of_lt (Nat.le_add_left _ _)
      (weight_line_lt (linesLeft_jump hr hj (hs _ _ hscript)) _ _ _)

lemma ends_within {longest : Nat}
    (hs : ∀ list script, s.script list = .ok script → script.length ≤ longest) (root : String) :
    s.next.after (((s.options.maxDepth + 1) * longest + 2) ^ (s.options.maxDepth + 2))
      (s.start root) = .ends (runNested s true s.options.maxDepth root {}) := by
  refine (s.ends_start root).within (fun _ => True) (·.weight longest s.options.maxDepth)
    (fun c c' _ hn => ⟨trivial, (moves_of_next hn).weight_lt hs⟩) fun c hc => ⟨trivial, ?_⟩
  obtain ⟨-, -, script, hscript, rfl⟩ := does_enter.of_goesOn hc
  exact weight_enter_lt root (hs _ _ hscript) [] (Nat.zero_le s.options.maxDepth) {}

section

variable {list name : String} {jumps callers : Nat}

lemma bars_tooDeep_iff (hs : ∀ list, s.script list ≠ .error (.tooDeep name)) :
    s.Bars list jumps callers (.tooDeep name) ↔
      list = name ∧ (s.options.maxDepth < jumps ∨ s.options.maxDepth < callers) := by
  rw [Bars]
  split
  · rename_i hd
    simp [hd, eq_comm]
  · rename_i hd
    simp [hd, hs]

lemma front_of_counts {n : Nat} {outer : List Nat} {l : Line} (hc : c.counts = n :: outer)
    (hl : c.line? = some l) : ∃ a callers rest, c = ⟨a :: callers, c.machine⟩ ∧
      a.rest = l :: rest ∧ a.jumps = n ∧ callers.length = outer.length := by
  obtain ⟨a, callers, rest, ha, hr⟩ := RunState.line?_eq_some_iff.1 hl
  obtain ⟨active, m⟩ := c
  obtain rfl : active = a :: callers := ha
  obtain ⟨hn, houter⟩ := List.cons.inj hc
  exact ⟨a, callers, rest, rfl, hr, hn, houter ▸ (List.length_map _).symm⟩

lemma fails_tooDeep_iff (hs : ∀ list, s.script list ≠ .error (.tooDeep name)) (hc : c.Sound s) :
    s.Fails c (.tooDeep name) ↔ ∃ n outer, c.counts = n :: outer ∧
      (c.line? = some (.ok (some (.call name))) ∧ outer.length = s.options.maxDepth ∨
        c.line? = some (.ok (some (.jump name))) ∧ n = s.options.maxDepth) := by
  constructor
  · intro h
    cases h with
    | step _ _ hm => cases Machine.trouble_of_step hm
    | @call a callers m list rest _ hr hb =>
      obtain ⟨rfl, hd⟩ := (bars_tooDeep_iff hs).1 hb
      have hle : callers.length ≤ s.options.maxDepth := Nat.le_of_succ_le_succ hc.calls
      refine ⟨a.jumps, callers.map (·.jumps), rfl, .inl ⟨by simp [RunState.line?, hr], ?_⟩⟩
      rw [List.length_map]
      omega
    | @jump a callers m list rest _ hr hb =>
      obtain ⟨rfl, hd⟩ := (bars_tooDeep_iff hs).1 hb
      have hle : callers.length ≤ s.options.maxDepth := Nat.le_of_succ_le_succ hc.calls
      have hj := (hc.active a List.mem_cons_self).jumps
      exact ⟨a.jumps, callers.map (·.jumps), rfl, .inr ⟨by simp [RunState.line?, hr], by omega⟩⟩
  · rintro ⟨n, outer, hcounts, ⟨hl, hd⟩ | ⟨hl, hd⟩⟩
    · obtain ⟨a, callers, rest, hfront, hr, -, hlen⟩ := front_of_counts hcounts hl
      rw [hfront]
      exact .call hr ((bars_tooDeep_iff hs).2 ⟨rfl, .inr (by omega)⟩)
    · obtain ⟨a, callers, rest, hfront, hr, hjumps, -⟩ := front_of_counts hcounts hl
      rw [hfront]
      exact .jump hr ((bars_tooDeep_iff hs).2 ⟨rfl, .inl (by omega)⟩)

lemma tooDeep_iff (hs : ∀ list, s.script list ≠ .error (.tooDeep name)) :
    (interpret s root).1 = .error (.tooDeep name) ↔
      ∃ c n outer, s.next.Passes (s.start root) c ∧ c.counts = n :: outer ∧
        (c.line? = some (.ok (some (.call name))) ∧ outer.length = s.options.maxDepth ∨
          c.line? = some (.ok (some (.jump name))) ∧ n = s.options.maxDepth) := by
  rw [interpret_eq_error_iff_fails]
  constructor
  · rintro (hb | ⟨c, hp, hf⟩)
    · obtain ⟨-, hd⟩ := (bars_tooDeep_iff hs).1 hb
      omega
    · obtain ⟨n, outer, h⟩ := (fails_tooDeep_iff hs (sound_of_passes hp)).1 hf
      exact ⟨c, n, outer, hp, h⟩
  · rintro ⟨c, n, outer, hp, h⟩
    exact .inr ⟨c, hp, (fails_tooDeep_iff hs (sound_of_passes hp)).2 ⟨n, outer, h⟩⟩

end

end Setting

/--
The run of a display list ends, with the number of its steps bounded by the limit, the number of
lines of the longest list and nothing else. Neither the calls nor the jumps of any of them go beyond
the limit. A call starts to count jumps anew, a jump counts for the latest call only, and the counts
below are as they were when a call has come back. The run fails for its depth just where it comes to
a call inside of as many calls as the limit admits, or to a jump after as many of its own call.
-/
theorem interpret_bounds_depth (sources : Sources) (vertices : VertexTable) (lights : LightTable)
    (options : Options) (root : String) :
    let s : Setting := ⟨scripts sources.lookup, vertices, lights, options⟩
    let result := (interpret s root).1
    let d := options.maxDepth
    (∃ outcome, s.next.after (((d + 1) * sources.longest .displayList + 2) ^ (d + 2))
      (s.start root) = .ends outcome ∧ outcome.batches = result) ∧
    (∀ c, s.next.Passes (s.start root) c → c.counts.length ≤ d + 1 ∧ (∀ n ∈ c.counts, n ≤ d) ∧
      ∀ c', s.next c = .goesOn c' → c'.counts = countsAfter c.line? c.counts) ∧
    ∀ name, result = .error (.tooDeep name) ↔
      ∃ c n outer, s.next.Passes (s.start root) c ∧ c.counts = n :: outer ∧
        (c.line? = some (.ok (some (.call name))) ∧ outer.length = d ∨
          c.line? = some (.ok (some (.jump name))) ∧ n = d) := by
  intro s result d
  have hlen : ∀ list script, s.script list = .ok script →
      script.length ≤ sources.longest .displayList := fun _ _ => length_le_of_scripts
  have hs (name : String) : ∀ list, s.script list ≠ .error (.tooDeep name) := fun list h => by
    cases (scripts_eq_error_iff.1 h).2
  refine ⟨⟨_, Setting.ends_within hlen root, (interpret_eq_batches s root).symm⟩, ?_,
    fun name => Setting.tooDeep_iff (hs name)⟩
  intro c hp
  have hc := Setting.sound_of_passes hp
  refine ⟨by simpa [RunState.counts] using hc.calls, fun n hn => ?_, fun c' hn => ?_⟩
  · obtain ⟨a, ha, rfl⟩ := List.mem_map.1 hn
    exact (hc.active a ha).jumps
  · exact (Setting.moves_of_next hn).counts_eq

example :
    let s (line : String) : Setting :=
      ⟨scripts { displayLists := .ofList [("spin", [line])] : Sources }.lookup, ∅, ∅, {}⟩
    (interpret (s "gsSPDisplayList(spin)") "spin").1 = .error (.tooDeep "spin") ∧
      (interpret (s "gsSPBranchList(spin)") "spin").1 = .error (.tooDeep "spin") := by
  decide +kernel

end SceneDraw.DisplayList
