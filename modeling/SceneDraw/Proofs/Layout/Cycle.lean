import Mathlib.Data.List.Nodup
import SceneDraw.Proofs.Layout.Activation

namespace SceneDraw.Layout

section

variable {sources : Sources} {name : String}

lemma scripts_eq_ok_iff {script : List Line} : scripts sources.lookup name = .ok script ↔
    ∃ lines, sources.layouts.find? name = some lines ∧ lines.map decodeLine = script := by
  simp only [scripts, Sources.lookup, Sources.table]
  cases sources.layouts.find? name <;> simp

lemma scripts_eq_error_iff {e : Error} : scripts sources.lookup name = .error e ↔
    sources.layouts.find? name = none ∧ e = .missingLayout name := by
  simp only [scripts, Sources.lookup, Sources.table, Error.ofLookup]
  cases sources.layouts.find? name <;> simp [eq_comm]

lemma contains_iff : sources.contains .layout name ↔
    ∃ script, scripts sources.lookup name = .ok script := by
  simp only [scripts_eq_ok_iff, Sources.contains, KeyMap.contains, Option.isSome_iff_exists]
  constructor
  · rintro ⟨lines, h⟩
    exact ⟨_, lines, h, rfl⟩
  · rintro ⟨_, lines, h, -⟩
    exact ⟨lines, h⟩

end

def Outcome.placements : Outcome → Except Error (List Placement)
  | .ok w => .ok w.placements
  | .error e => .error e.error

lemma interpret_eq_placements (lookup : Lookup) (animation : Option Animation) (options : Options)
    (root : String) : (interpret lookup animation options root).1 =
      (runRoot (settingOf lookup options root) root
        (animation.map fun animation => { animation, frame := options.frame })).placements := by
  rw [interpret_eq]
  split <;> rename_i h <;> rw [h] <;> rfl

def RunState.weight (base size : Nat) (c : RunState) : Nat :=
  (if c.entry.isSome then base ^ (size - c.active.length + 1) else 0) +
    stackWeight base size (c.active.map (·.rest.length))

namespace Setting

variable {s : Setting} {c c' : RunState} {e : Error} {root : String} {playhead : Option Playhead}

lemma Moves.weight_lt {base size : Nat} (h : s.Moves c c') (hsize : c'.active.length ≤ size)
    (hbase : ∀ a ∈ c'.active, a.rest.length + 2 ≤ base) :
    c'.weight base size < c.weight base size := by
  cases h with
  | @enter e active walk _ _ =>
    have hsize : (active.map (·.rest.length)).length < size := by
      rw [List.length_map]
      exact hsize
    have hpush := stackWeight_push hsize (hbase _ List.mem_cons_self)
    simpa [RunState.weight, Entry.activation] using hpush
  | @leave a outer walk hr =>
    simpa [RunState.weight, hr] using stackWeight_pop
  | @line a outer walk walk' l rest scope entry hr _ =>
    -- The line pays for the layout that it may lead into.
    have hline : _ < stackWeight base size (a.rest.length :: outer.map (·.rest.length)) :=
      stackWeight_line base size _ (m := rest.length) (by rw [hr]; exact Nat.lt_succ_self _)
    have hroom : size - (outer.length + 1) + 1 = size - outer.length := by
      rw [List.length_cons] at hsize
      omega
    simp only [RunState.weight, Activation.goOn, List.map_cons, List.length_cons, List.length_map,
      hroom] at hline ⊢
    split <;> simp <;> omega

def BranchesInto (s : Setting) (root : String) (playhead : Option Playhead) (path : List String)
    (layout : String) : Prop :=
  s.isNull layout = false ∧ (∃ script, s.script layout = .ok script) ∧
    ∃ c link, s.next.Passes (s.start root playhead) c ∧ c.path = path ∧
      c.command? = some (.branch layout link)

lemma next_of_branch {layout : String} {link : Bool} {script : List Line}
    (h : c.command? = some (.branch layout link)) (hn : s.isNull layout = false)
    (hs : s.script layout = .ok script) : ∃ c' e, s.next c = .goesOn c' ∧ c'.entry = some e ∧
      e.layout = layout ∧ c'.path = c.path := by
  obtain ⟨a, rest, outer, -, ha, -, hc⟩ := next_of_command (s := s) h
  rw [hc]
  simp only [carryOut, turn, hn, hs, Bool.false_eq_true, if_false]
  exact ⟨_, _, rfl, rfl, rfl, by simp [RunState.path, ha, Activation.goOn]⟩

lemma entering_iff {path : List String} {layout : String} :
    (∃ c e, s.next.Passes (s.start root playhead) c ∧ c.entry = some e ∧ e.layout = layout ∧
      c.path = path) ↔
    (layout = root ∧ path = [] ∧ ∃ script, s.script root = .ok script) ∨
      s.BranchesInto root playhead path layout := by
  constructor
  · rintro ⟨c, e, hp, he, rfl, rfl⟩
    obtain h | ⟨c₀, hp₀, hn⟩ := hp.eq_or_goesOn
    · rw [start] at h
      split at h
      · rename_i script hs
        obtain rfl := Next.goesOn.inj h
        obtain rfl := Option.some.inj he
        exact .inl ⟨rfl, rfl, script, hs⟩
      · cases h
    · cases moves_of_next hn with
      | enter => cases he
      | leave => cases he
      | line _ hl =>
        obtain ⟨hs, hnull, link, hc⟩ := hl e he
        exact .inr ⟨hnull, ⟨_, hs⟩, _, link, hp₀, rfl, hc⟩
  · rintro (⟨rfl, rfl, script, hs⟩ | ⟨hn, ⟨script, hs⟩, c, link, hp, rfl, hc⟩)
    · rw [start, hs]
      exact ⟨_, _, .refl _, rfl, rfl, rfl⟩
    · obtain ⟨c', e, hnext, he, hl, hpath⟩ := next_of_branch hc hn hs
      exact ⟨c', e, hp.goOn hnext, he, hl, hpath⟩

lemma placements_eq_error_iff : (runRoot s root playhead).placements = .error e ↔
    s.script root = .error e ∨ ∃ c, s.next.Passes (s.start root playhead) c ∧ s.Fails c e := by
  have hresult : (runRoot s root playhead).placements = .error e ↔
      ∃ log, runRoot s root playhead = .error ⟨e, log⟩ := by
    cases runRoot s root playhead with
    | ok w => simp [Outcome.placements]
    | error stopped =>
      obtain ⟨e', log⟩ := stopped
      simp [Outcome.placements]
  have hstart : (∃ log, s.start root playhead = .ends (.error ⟨e, log⟩)) ↔
      s.script root = .error e := by
    rw [start]
    cases s.script root <;> simp [Walk.stop]
  simp only [hresult, (s.ends_start root playhead).error_iff, hstart, fails_iff]

end Setting

section

variable {sources : Sources} {options : Options} {root : String} {playhead : Option Playhead}
  {c : RunState} {layout : String}

namespace RunState.Sound

lemma length_path_le {s : Setting} (hc : c.Sound s) : c.path.length ≤ s.options.maxDepth := by
  simpa [path] using hc.bounded

lemma defined (hc : c.Sound (settingOf sources.lookup options root)) :
    ∀ layout ∈ c.path, sources.contains .layout layout := by
  intro layout hl
  obtain ⟨a, ha, rfl⟩ := List.mem_map.1 hl
  obtain ⟨done, hs, -⟩ := hc.placed a ha
  exact contains_iff.2 ⟨_, hs⟩

lemma length_active_le (hc : c.Sound (settingOf sources.lookup options root)) :
    c.active.length ≤ sources.layouts.size := by
  have hkeys : c.path ⊆ sources.layouts.keys :=
    fun layout hl => KeyMap.mem_keys.2 (hc.defined layout hl)
  simpa [path, KeyMap.keys, KeyMap.size] using hc.nodup.length_le_of_subset hkeys

lemma length_rest_le (hc : c.Sound (settingOf sources.lookup options root)) :
    ∀ a ∈ c.active, a.rest.length ≤ sources.longest .layout := by
  intro a ha
  obtain ⟨done, hs, -⟩ := hc.placed a ha
  obtain ⟨lines, hfind, hlines⟩ := scripts_eq_ok_iff.1 hs
  have hlen : lines.length = done.length + a.rest.length := by
    simpa using congrArg List.length hlines
  have hle : lines.length ≤ sources.longest .layout := Sources.length_le_longest hfind
  omega

end RunState.Sound

lemma ends_within (sources : Sources) (options : Options) (root : String)
    (playhead : Option Playhead) :
    let s := settingOf sources.lookup options root
    s.next.after ((sources.longest .layout + 2) ^ (sources.layouts.size + 1) + 1)
      (s.start root playhead) = .ends (runRoot s root playhead) := by
  intro s
  refine (s.ends_start root playhead).within (·.Sound s)
    (·.weight (sources.longest .layout + 2) sources.layouts.size) ?_ ?_
  · intro c c' hc hn
    have hm := Setting.moves_of_next hn
    have hc' := hm.sound hc
    exact ⟨hc', hm.weight_lt hc'.length_active_le fun a ha =>
      Nat.add_le_add_right (hc'.length_rest_le a ha) 2⟩
  · intro c hc
    have hp : s.next.Passes (s.start root playhead) c := ⟨0, hc⟩
    refine ⟨Setting.sound_of_passes hp, ?_⟩
    rw [Setting.start] at hc
    split at hc
    · obtain rfl := Next.goesOn.inj hc
      exact Nat.lt_succ_self _
    · cases hc

lemma fails_cycle_iff : (settingOf sources.lookup options root).Fails c (.cycle layout) ↔
    ∃ e, c.entry = some e ∧ e.layout = layout ∧ layout ∈ c.path := by
  constructor
  · intro h
    cases h with
    | cycle hl => exact ⟨_, rfl, rfl, hl⟩
    | missing _ _ hs _ => cases (scripts_eq_error_iff.1 hs).2
  · rintro ⟨e, he, rfl, hl⟩
    obtain ⟨_, active, walk⟩ := c
    obtain rfl := he
    exact .cycle hl

lemma fails_tooDeep_iff : (settingOf sources.lookup options root).Fails c (.tooDeep layout) ↔
    ∃ e, c.entry = some e ∧ e.layout = layout ∧ layout ∉ c.path ∧
      options.maxDepth ≤ c.path.length := by
  constructor
  · intro h
    cases h with
    | tooDeep hl hd => exact ⟨_, rfl, rfl, hl, by simpa [RunState.path, settingOf] using hd⟩
    | missing _ _ hs _ => cases (scripts_eq_error_iff.1 hs).2
  · rintro ⟨e, he, rfl, hl, hd⟩
    obtain ⟨_, active, walk⟩ := c
    obtain rfl := he
    exact .tooDeep hl (by simpa [RunState.path, settingOf] using hd)

lemma cycle_iff :
    (runRoot (settingOf sources.lookup options root) root playhead).placements =
      .error (.cycle layout) ↔
    ∃ path, (settingOf sources.lookup options root).BranchesInto root playhead path layout ∧
      layout ∈ path := by
  rw [Setting.placements_eq_error_iff]
  constructor
  · rintro (hs | ⟨c, hp, hf⟩)
    · cases (scripts_eq_error_iff.1 hs).2
    · obtain ⟨e, he, hl, hmem⟩ := fails_cycle_iff.1 hf
      obtain ⟨-, hpath, -⟩ | hb := Setting.entering_iff.1 ⟨c, e, hp, he, hl, rfl⟩
      · simp [hpath] at hmem
      · exact ⟨c.path, hb, hmem⟩
  · rintro ⟨path, hb, hmem⟩
    obtain ⟨c, e, hp, he, hl, rfl⟩ := Setting.entering_iff.2 (.inr hb)
    exact .inr ⟨c, hp, fails_cycle_iff.2 ⟨e, he, hl, hmem⟩⟩

lemma tooDeep_iff :
    (runRoot (settingOf sources.lookup options root) root playhead).placements =
      .error (.tooDeep layout) ↔
    ∃ path, (layout = root ∧ path = [] ∧ sources.contains .layout root ∨
      (settingOf sources.lookup options root).BranchesInto root playhead path layout) ∧
      layout ∉ path ∧ path.length = options.maxDepth := by
  rw [Setting.placements_eq_error_iff]
  simp only [contains_iff]
  constructor
  · rintro (hs | ⟨c, hp, hf⟩)
    · cases (scripts_eq_error_iff.1 hs).2
    · obtain ⟨e, he, hl, hmem, hd⟩ := fails_tooDeep_iff.1 hf
      have hle := (Setting.sound_of_passes hp).length_path_le
      exact ⟨c.path, Setting.entering_iff.1 ⟨c, e, hp, he, hl, rfl⟩, hmem, Nat.le_antisymm hle hd⟩
  · rintro ⟨path, hb, hmem, hd⟩
    obtain ⟨c, e, hp, he, hl, rfl⟩ :=
      (Setting.entering_iff (s := settingOf sources.lookup options root)).2 hb
    exact .inr ⟨c, hp, fails_tooDeep_iff.2 ⟨e, he, hl, hmem, Nat.le_of_eq hd.symm⟩⟩

lemma transGen_of_cycle (h : (runRoot (settingOf sources.lookup options root) root
    playhead).placements = .error (.cycle layout)) :
    Relation.TransGen (settingOf sources.lookup options root).Branches layout layout := by
  obtain hs | ⟨c, hp, hf⟩ := Setting.placements_eq_error_iff.1 h
  · cases (scripts_eq_error_iff.1 hs).2
  · obtain ⟨e, he, rfl, hmem⟩ := fails_cycle_iff.1 hf
    -- The layout branches to itself along the active ones.
    have hlinked := (Setting.sound_of_passes hp).linked
    rw [he] at hlinked
    exact (List.pairwise_cons.1 hlinked).1 _ hmem

end

/--
A layout run ends, within a number of steps that does not depend on the depth limit. The layouts
that are active are always distinct defined ones, no more than the limit. It fails with a cycle just
where it branches into an active layout, and for its depth just where it is about to enter another
one while the most that may be are active. So it does not fail with a cycle if no layout branches
back to itself.
-/
theorem interpret_cuts_cycles (sources : Sources) (animation : Option Animation)
    (options : Options) (root : String) :
    let s := settingOf sources.lookup options root
    let playhead := animation.map fun animation =>
      ({ animation, frame := options.frame } : Playhead)
    let result := (interpret sources.lookup animation options root).1
    (∃ outcome, s.next.after ((sources.longest .layout + 2) ^ (sources.layouts.size + 1) + 1)
      (s.start root playhead) = .ends outcome ∧ outcome.placements = result) ∧
    (∀ c, s.next.Passes (s.start root playhead) c → c.path.Nodup ∧
      (∀ layout ∈ c.path, sources.contains .layout layout) ∧ c.path.length ≤ options.maxDepth) ∧
    (∀ layout, result = .error (.cycle layout) ↔
      ∃ path, s.BranchesInto root playhead path layout ∧ layout ∈ path) ∧
    (∀ layout, result = .error (.tooDeep layout) ↔
      ∃ path, (layout = root ∧ path = [] ∧ sources.contains .layout root ∨
        s.BranchesInto root playhead path layout) ∧
        layout ∉ path ∧ path.length = options.maxDepth) ∧
    ((∀ layout, ¬Relation.TransGen s.Branches layout layout) →
      ∀ layout, result ≠ .error (.cycle layout)) := by
  intro s playhead result
  have hresult : result = (runRoot s root playhead).placements := interpret_eq_placements _ _ _ _
  refine ⟨⟨_, ends_within sources options root playhead, hresult.symm⟩, fun c hp => ?_,
    fun layout => hresult ▸ cycle_iff, fun layout => hresult ▸ tooDeep_iff, fun hs layout h => ?_⟩
  · have hc : c.Sound s := Setting.sound_of_passes hp
    exact ⟨hc.nodup, hc.defined, hc.length_path_le⟩
  · exact hs layout (transGen_of_cycle (hresult ▸ h))

lemma not_transGen_of_rank {s : Setting} (rank : String → Nat)
    (h : ∀ layout target, s.Branches layout target → rank target < rank layout) (layout : String) :
    ¬Relation.TransGen s.Branches layout layout := by
  suffices ∀ target, Relation.TransGen s.Branches layout target → rank target < rank layout from
    fun hl => Nat.lt_irrefl _ (this layout hl)
  intro target ht
  induction ht with
  | single hb => exact h _ _ hb
  | tail _ hb ih => exact Nat.lt_trans (h _ _ hb) ih

def diamond : Sources where
  layouts := .ofList [("root", ["GEO_BRANCH(1, left)", "GEO_BRANCH(1, leaf)",
    "GEO_BRANCH(1, leaf)"]), ("left", ["GEO_BRANCH(1, leaf)"]),
    ("leaf", ["GEO_DISPLAY_LIST(LAYER_ALPHA, body)"])]

def diamondRank (layout : String) : Nat :=
  if layout = "root" then 2 else if layout = "left" then 1 else 0

def target? : Line → Option String
  | .ok (some (.branch layout _)) => some layout
  | _ => none

theorem interpret_cuts_cycles_diamond :
    let s := settingOf diamond.lookup {} "root"
    (∀ layout, ¬Relation.TransGen s.Branches layout layout) ∧
      (∀ layout, (interpret diamond.lookup none {} "root").1 ≠ .error (.cycle layout)) ∧
      (interpret diamond.lookup none {} "root").1.toOption.map (·.length) = some 3 := by
  intro s
  have hrank : ∀ e ∈ diamond.layouts.entries, ∀ l ∈ e.2.map decodeLine, ∀ target ∈ target? l,
      diamondRank target < diamondRank e.1 := by
    decide +kernel
  have hbranches (layout target : String) (hb : s.Branches layout target) :
      diamondRank target < diamondRank layout := by
    obtain ⟨-, script, link, hs, hmem⟩ := hb
    obtain ⟨lines, hfind, rfl⟩ := scripts_eq_ok_iff.1 hs
    exact hrank _ (KeyMap.mem_of_find? hfind) _ hmem _ rfl
  have hacyclic := not_transGen_of_rank diamondRank hbranches
  exact ⟨hacyclic, (interpret_cuts_cycles diamond none {} "root").2.2.2.2 hacyclic,
    by decide +kernel⟩

theorem branch_to_active_null_is_passed :
    let sources : Sources := { layouts := .ofList [("NULL", ["GEO_BRANCH(1, NULL)"])] }
    let s := settingOf sources.lookup {} "NULL"
    (∃ c link, s.next.Passes (s.start "NULL" none) c ∧
      c.command? = some (.branch "NULL" link) ∧ sources.contains .layout "NULL" ∧
        "NULL" ∈ c.path) ∧
      (interpret sources.lookup none {} "NULL").1 = .ok [] := by
  intro sources s
  have hs : s.script "NULL" = .ok [.ok (some (.branch "NULL" true))] :=
    congrArg Except.ok (by decide +kernel)
  let root : Activation := ⟨"NULL", 0, [.ok (some (.branch "NULL" true))], .enter .root⟩
  have hp : s.next.Passes (s.start "NULL" none)
      { active := [root], walk := { playhead := none } } := by
    rw [Setting.start, hs]
    exact ⟨1, rfl⟩
  exact ⟨⟨_, true, hp, rfl, by decide +kernel, List.mem_singleton_self _⟩, by decide +kernel⟩

end SceneDraw.Layout
