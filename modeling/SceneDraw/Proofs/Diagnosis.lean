import SceneDraw.Proofs.DisplayList.Depth
import SceneDraw.Proofs.Layout.Cycle

namespace SceneDraw

lemma line_of_placed {α : Type} {decode : String → α} {lines : List String} {l : α}
    {done rest : List α} (h : lines.map decode = done ++ l :: rest) :
    ∃ text, lines[done.length]? = some text ∧ decode text = l := by
  apply Option.map_eq_some_iff.1
  rw [← List.getElem?_map, h]
  simp

namespace DisplayList

def RunState.At (c : RunState) (list : String) (line : Nat) (l : Line) : Prop :=
  ∃ a callers rest, c.active = a :: callers ∧ a.list = list ∧ a.line = line ∧ a.rest = l :: rest

section

variable {sources : Sources} {s : Setting} {c c' : RunState} {list name : String} {line : Nat}
  {l : Line} {m m' : Machine} {e : Error} {root : String}

lemma RunState.At.source (h : c.At list line l) (hc : c.Sound s)
    (hs : s.script = scripts sources.lookup) :
    ∃ lines text, sources.displayLists.find? list = some lines ∧ lines[line]? = some text ∧
      decodeLine text = l := by
  obtain ⟨a, callers, rest, ha, rfl, rfl, hr⟩ := h
  obtain ⟨done, hscript, hlen⟩ := (hc.active a (ha ▸ List.mem_cons_self)).placed
  rw [hs, hr] at hscript
  obtain ⟨lines, hfind, hlines⟩ := scripts_eq_ok_iff.1 hscript
  obtain ⟨text, htext, hl⟩ := line_of_placed hlines
  exact ⟨lines, text, hfind, hlen ▸ htext, hl⟩

lemma cause_of_error (h : (interpret s root).1 = .error e) :
    (∃ list, e = .tooDeep list) ∨ (∃ list, s.script list = .error e) ∨
      ∃ c list line, s.next.Passes (s.start root) c ∧ s.Fails c e ∧
        ((∃ cause, c.At list line (.error cause) ∧ e = .decode list line cause) ∨
          ∃ d, c.At list line (.ok (some d)) ∧ c.machine.Trouble s ⟨list, line, d⟩ e) := by
  have barred {list : String} {jumps callers : Nat} (hb : s.Bars list jumps callers e) :
      (∃ list, e = .tooDeep list) ∨ ∃ list, s.script list = .error e := by
    rw [Setting.Bars] at hb
    split at hb
    · exact .inl ⟨list, hb⟩
    · exact .inr ⟨list, hb⟩
  obtain hb | ⟨c, hp, hf⟩ := interpret_eq_error_iff_fails.1 h
  · exact (barred hb).imp_right .inl
  · cases hf with
    | decode hr =>
      exact .inr (.inr ⟨_, _, _, hp, .decode hr, .inl ⟨_, ⟨_, _, _, rfl, rfl, rfl, hr⟩, rfl⟩⟩)
    | step hr hd hm =>
      exact .inr (.inr ⟨_, _, _, hp, .step hr hd hm,
        .inr ⟨_, ⟨_, _, _, rfl, rfl, rfl, hr⟩, Machine.trouble_of_step hm⟩⟩)
    | call hr hb => exact (barred hb).imp_right .inl
    | jump hr hb => exact (barred hb).imp_right .inl

lemma Machine.newest_ne_nil_of_step {p : Placed} (h : m.step s p = .ok m')
    (hn : m.newest ≠ [] ∨ ∃ l, p.command = .load l) : m'.newest ≠ [] := by
  obtain ⟨l, -, h⟩ | ⟨-, h⟩ | ⟨-, hl, state, log, -, rfl⟩ := step_cases h
  · obtain ⟨vertices, -, -, rfl⟩ := load_cases h
    exact List.cons_ne_nil _ _
  · obtain ⟨b, older, b', -, ⟨-, -, rfl⟩ | ⟨-, -, -, rfl⟩⟩ := draw_cases h
    · exact List.cons_ne_nil _ _
    · exact List.cons_ne_nil _ _
  · obtain hn | ⟨l, hc⟩ := hn
    · exact hn
    · simp [hc, Command.load?] at hl

lemma Setting.Moves.newest_ne_nil (h : s.Moves c c')
    (hn : c.machine.newest ≠ [] ∨ ∃ l, c.line? = some (.ok (some (.load l)))) :
    c'.machine.newest ≠ [] := by
  cases h with
  | leave hr => obtain hr | ⟨rest, hr⟩ := hr <;> simpa [RunState.line?, hr] using hn
  | plain hr _ hm => exact Machine.newest_ne_nil_of_step hm (by simpa [RunState.line?, hr] using hn)
  | blank hr => simpa [RunState.line?, hr] using hn
  | call hr => simpa [RunState.line?, hr] using hn
  | jump hr => simpa [RunState.line?, hr] using hn

lemma no_load_of_newest_eq_nil (hp : s.next.Passes (s.start root) c) (hf : s.Fails c e)
    (hn : c.machine.newest = []) (hl : ∀ l, c.line? ≠ some (.ok (some (.load l))))
    (hp' : s.next.Passes (s.start root) c') (l : VertexLoad) :
    c'.line? ≠ some (.ok (some (.load l))) := by
  intro hload
  -- A run ends where it fails, so a load would have come before, and its vertices would be left.
  obtain ⟨log, hends⟩ := Setting.fails_iff.1 hf
  obtain rfl | hnext := (hp.to_last hends hp').eq_or_of_next
  · exact hl l hload
  · refine hnext.induction (P := (·.machine.newest ≠ [])) (fun c₁ h₁ => ?_)
      (fun c₁ c₂ h₁ h₂ => ?_) hn
    · exact (Setting.moves_of_next h₁).newest_ne_nil (.inr ⟨l, hload⟩)
    · exact (Setting.moves_of_next h₂).newest_ne_nil (.inl h₁)

def Error.Holds (sources : Sources) (s : Setting) (root : String) : Error → Prop
  | .decode list line cause =>
    (∃ c, s.next.Passes (s.start root) c ∧ c.At list line (.error cause)) ∧
      ∃ lines text, sources.displayLists.find? list = some lines ∧ lines[line]? = some text ∧
        decodeLine text = .error cause
  | .noVertices list line => ∃ d, d.isTriangle ∧
    (∃ c, s.next.Passes (s.start root) c ∧ c.At list line (.ok (some d))) ∧
      (∃ lines text, sources.displayLists.find? list = some lines ∧ lines[line]? = some text ∧
        decodeLine text = .ok (some d)) ∧
      ∀ c, s.next.Passes (s.start root) c → ∀ l, c.line? ≠ some (.ok (some (.load l)))
  | .missingList name => sources.displayLists.find? name = none
  | .missingBuffer name => s.vertices.find? name = none
  | .missingLight name => s.lights.find? name = none
  | .invalidIndex .. | .missingTexture _ | .tooDeep _ => True

lemma holds_of_error (hs : s.script = scripts sources.lookup)
    (h : (interpret s root).1 = .error e) : e.Holds sources s root := by
  obtain ⟨list, rfl⟩ | ⟨list, he⟩ | ⟨c, list, line, hp, hf, ⟨cause, hat, rfl⟩ | ⟨d, hat, ht⟩⟩ :=
    cause_of_error h
  · trivial
  · rw [hs] at he
    obtain ⟨hfind, rfl⟩ := scripts_eq_error_iff.1 he
    exact hfind
  · exact ⟨⟨c, hp, hat⟩, hat.source (Setting.sound_of_passes hp) hs⟩
  · cases ht with
    | buffer _ hv => exact hv
    | light _ hl => exact hl
    | empty hd hn =>
      refine ⟨d, hd, ⟨c, hp, hat⟩, hat.source (Setting.sound_of_passes hp) hs, fun c' hp' =>
        no_load_of_newest_eq_nil hp hf hn (fun l hl => ?_) hp'⟩
      obtain ⟨a, callers, rest, ha, -, -, hr⟩ := hat
      have hline := RunState.line?_eq_some_iff.2 ⟨a, callers, rest, ha, hr⟩
      obtain rfl : Command.load l = d := by simpa [hl] using hline
      cases hd
    | index => trivial

end

end DisplayList

namespace Layout

def RunState.At (c : RunState) (layout : String) (line : Nat) (l : Line) : Prop :=
  c.entry = none ∧ ∃ a outer rest, c.active = a :: outer ∧ a.layout = layout ∧ a.line = line ∧
    a.rest = l :: rest

def Error.Holds (sources : Sources) (s : Setting) (root : String) (playhead : Option Playhead) :
    Error → Prop
  | .decode layout line cause =>
    (∃ c, s.next.Passes (s.start root playhead) c ∧ c.At layout line (.error cause)) ∧
      ∃ lines text, sources.layouts.find? layout = some lines ∧ lines[line]? = some text ∧
        decodeLine text = .error cause
  | .missingLayout name => sources.layouts.find? name = none
  | .cycle _ | .tooDeep _ => True

section

variable {sources : Sources} {s : Setting} {c : RunState} {layout root : String} {line : Nat}
  {l : Line} {e : Error} {playhead : Option Playhead}

lemma RunState.At.source (h : c.At layout line l) (hc : c.Sound s)
    (hs : s.script = scripts sources.lookup) :
    ∃ lines text, sources.layouts.find? layout = some lines ∧ lines[line]? = some text ∧
      decodeLine text = l := by
  obtain ⟨-, a, outer, rest, ha, rfl, rfl, hr⟩ := h
  obtain ⟨done, hscript, hlen⟩ := hc.placed a (ha ▸ List.mem_cons_self)
  rw [hs, hr] at hscript
  obtain ⟨lines, hfind, hlines⟩ := scripts_eq_ok_iff.1 hscript
  obtain ⟨text, htext, hl⟩ := line_of_placed hlines
  exact ⟨lines, text, hfind, hlen ▸ htext, hl⟩

lemma holds_of_error (hs : s.script = scripts sources.lookup)
    (h : (runRoot s root playhead).placements = .error e) : e.Holds sources s root playhead := by
  have missing {layout : String} (he : s.script layout = .error e) :
      e.Holds sources s root playhead := by
    rw [hs] at he
    obtain ⟨hfind, rfl⟩ := scripts_eq_error_iff.1 he
    exact hfind
  obtain he | ⟨c, hp, hf⟩ := Setting.placements_eq_error_iff.1 h
  · exact missing he
  · cases hf with
    | cycle => trivial
    | tooDeep => trivial
    | @decode a outer walk cause rest hr =>
      have hat : (RunState.mk none (a :: outer) walk).At a.layout a.line (.error cause) :=
        ⟨rfl, _, _, _, rfl, rfl, rfl, hr⟩
      exact ⟨⟨_, hp, hat⟩, hat.source (Setting.sound_of_passes hp) hs⟩
    | missing _ _ he _ => exact missing he

end

end Layout

/--
Errors hold what they say. A malformed line is one of the list or layout that the error names, and
the run has come to it. A triangle without vertices is at the line that the error names, and no
vertices were loaded before. What is reported as missing is not in the table.
-/
theorem interpret_errors_hold (sources : Sources) :
    (∀ vertices lights options root e,
      let s : DisplayList.Setting :=
        ⟨DisplayList.scripts sources.lookup, vertices, lights, options⟩
      (DisplayList.interpret s root).1 = .error e → e.Holds sources s root) ∧
    ∀ animation options root e,
      (Layout.interpret sources.lookup animation options root).1 = .error e →
        e.Holds sources (Layout.settingOf sources.lookup options root) root
          (animation.map fun animation => { animation, frame := options.frame }) := by
  refine ⟨fun _ _ _ _ _ h => DisplayList.holds_of_error rfl h, fun _ _ _ _ h => ?_⟩
  rw [Layout.interpret_eq_placements] at h
  exact Layout.holds_of_error rfl h

def relayed : Sources where
  displayLists := .ofList [("root", ["gsSPDisplayList(child)", "gsSPVertex(v, 3, 0)"]),
    ("child", ["gsSPBranchList(tail)"]), ("tail", ["gsDPPipeSync()", "gsSP1Triangle(0, 1, 2, 0)"])]

theorem interpret_errors_hold_relayed :
    let s : DisplayList.Setting := ⟨DisplayList.scripts relayed.lookup, ∅, ∅, {}⟩
    (DisplayList.interpret s "root").1 = .error (.noVertices "tail" 1) ∧
      (DisplayList.Error.noVertices "tail" 1).Holds relayed s "root" := by
  intro s
  have h : (DisplayList.interpret s "root").1 = .error (.noVertices "tail" 1) := by decide +kernel
  exact ⟨h, (interpret_errors_hold relayed).1 _ _ _ _ _ h⟩

end SceneDraw
