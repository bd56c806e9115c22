import SceneDraw.Proofs.DisplayList.Activation

/-! What the light commands of a run do to the light slots. A light that is not defined stops the
run, if missing references are to fail. A light that is defined puts what the command asks for into
the slots. If it has no such part, the state stays as it was, and there is a warning only. -/

namespace SceneDraw.DisplayList

def Command.light? : Command → Option String
  | lightPair name | light name _ _ => some name
  | _ => none

section

variable {s : Setting} {c : RunState} {m : Machine} {root name : String} {d : Command}

lemma step_of_light (hd : d.light? = some name) (list : String) (line : Nat) :
    m.step s ⟨list, line, d⟩ = do
      let (state, log) ← s.apply m.state d
      return { m with state, log := m.log ++ log } := by
  cases d <;> first | rfl | cases hd

lemma next_of_light (h : c.line? = some (.ok (some d))) (hd : d.light? = some name) :
    ∃ active, s.next c = match s.apply c.machine.state d with
      | .ok (state, log) => .goesOn ⟨active, { c.machine with state, log := c.machine.log ++ log }⟩
      | .error e => .ends (c.machine.stop e) := by
  have hcontrol : d.isControl = false := by cases d <;> first | rfl | cases hd
  obtain ⟨a, callers, rest, ha, hr⟩ := RunState.line?_eq_some_iff.1 h
  refine ⟨a.goOn rest :: callers, ?_⟩
  simp only [Setting.next, ha, hr, Setting.carryOut_plain hcontrol, step_of_light hd]
  cases s.apply c.machine.state d <;> rfl

lemma error_of_undefined_light (hp : s.options.policy = .fail)
    (hc : s.next.Passes (s.start root) c) (h : c.line? = some (.ok (some d)))
    (hd : d.light? = some name) (hl : s.lights.find? name = none) :
    (interpret s root).1 = .error (.missingLight name) := by
  have ha : s.apply c.machine.state d = .error (.missingLight name) := by
    cases d with
    | lightPair _ =>
      obtain rfl := Option.some.inj hd
      simp [Setting.apply, hl, Setting.missingLight, hp]
    | light _ _ _ =>
      obtain rfl := Option.some.inj hd
      simp [Setting.apply, hl, Setting.missingLight, hp]
    | _ => cases hd
  obtain ⟨active, hn⟩ := next_of_light (s := s) h hd
  rw [ha] at hn
  exact interpret_eq_error_iff_fails.2 (.inr ⟨c, hc, Setting.fails_iff.2 ⟨_, hn⟩⟩)

lemma light_of_ok {batches : List Batch} (hp : s.options.policy = .fail)
    (hok : (interpret s root).1 = .ok batches) (hc : s.next.Passes (s.start root) c)
    (h : c.line? = some (.ok (some d))) (hd : d.light? = some name) :
    ∃ light, s.lights.find? name = some light := by
  cases hl : s.lights.find? name with
  | none =>
    rw [error_of_undefined_light hp hc h hd hl] at hok
    cases hok
  | some light => exact ⟨light, rfl⟩

end

theorem interpret_sets_lights (s : Setting) (hp : s.options.policy = .fail) (root : String) :
    (∀ c d name, s.next.Passes (s.start root) c → c.line? = some (.ok (some d)) →
      d.light? = some name → s.lights.find? name = none →
        (interpret s root).1 = .error (.missingLight name)) ∧
    ∀ batches, (interpret s root).1 = .ok batches → ∀ c, s.next.Passes (s.start root) c →
      (∀ name, c.line? = some (.ok (some (.lightPair name))) →
        ∃ light c', s.lights.find? name = some light ∧ s.next c = .goesOn c' ∧
          match light.directional.head? with
          | some d => c'.machine.state.lights.find? 1 = some (.directional d) ∧
            c'.machine.state.lights.find? 2 = some (.ambient light.ambient)
          | none => c'.machine.state = c.machine.state ∧
            c'.machine.log = c.machine.log ++ Setting.warning s!"{name} has no directional light") ∧
      ∀ name part slot, c.line? = some (.ok (some (.light name part slot))) →
        ∃ light c', s.lights.find? name = some light ∧ s.next c = .goesOn c' ∧
          match light.part? part with
          | some value => c'.machine.state.lights.find? slot = some value
          | none => c'.machine.state = c.machine.state ∧
            c'.machine.log = c.machine.log ++
              Setting.warning s!"{name} has no light {part.display}" := by
  refine ⟨fun c d name => error_of_undefined_light hp, fun batches hok c hc => ⟨?_, ?_⟩⟩
  · intro name h
    obtain ⟨light, hl⟩ := light_of_ok hp hok hc h rfl
    obtain ⟨active, hn⟩ := next_of_light (s := s) h rfl
    cases hd : light.directional.head? with
    | some d =>
      simp only [Setting.apply, hl, RenderState.setLightPair?, hd, Option.map_some] at hn
      refine ⟨light, _, hl, hn, ?_⟩
      simp [hd, RenderState.setLight, KeyMap.find?_insert]
    | none =>
      simp only [Setting.apply, hl, RenderState.setLightPair?, hd, Option.map_none] at hn
      exact ⟨light, _, hl, hn, by simp [hd]⟩
  · intro name part slot h
    obtain ⟨light, hl⟩ := light_of_ok hp hok hc h rfl
    obtain ⟨active, hn⟩ := next_of_light (s := s) h rfl
    cases hv : light.part? part with
    | some value =>
      simp only [Setting.apply, hl, hv] at hn
      refine ⟨light, _, hl, hn, ?_⟩
      simp [hv, RenderState.setLight, KeyMap.find?_insert]
    | none =>
      simp only [Setting.apply, hl, hv] at hn
      exact ⟨light, _, hl, hn, by simp [hv]⟩

def room : Sources where
  displayLists := .ofList [("room", ["gsSPSetLights1(lamp)", "gsSPLight(&lamp.l[0], 3)"])]

def Setting.litBy (light : Light) : Setting :=
  ⟨scripts room.lookup, ∅, .ofList [("lamp", light)], { policy := .fail }⟩

lemma passes_room (light : Light) :
    let script : List Line :=
      [.ok (some (.lightPair "lamp")), .ok (some (.light "lamp" (.directional 0) 3))]
    (Setting.litBy light).next.Passes ((Setting.litBy light).start "room")
      ⟨[⟨"room", 0, script, 0⟩], {}⟩ := by
  intro script
  have hs : (Setting.litBy light).script "room" = .ok script :=
    congrArg Except.ok (by decide +kernel)
  rw [Setting.start, Setting.enter, hs]
  exact .refl _

theorem interpret_sets_lights_room :
    let lamp : Light := ⟨⟨1, 2, 3⟩, [⟨⟨4, 5, 6⟩, ⟨0, 0, 127⟩⟩]⟩
    let s := Setting.litBy lamp
    s.options.policy = .fail ∧ (interpret s "room").1 = .ok [] ∧
      ∃ c c', s.next.Passes (s.start "room") c ∧ s.next c = .goesOn c' ∧
        c'.machine.state.lights.find? 1 = some (.directional ⟨⟨4, 5, 6⟩, ⟨0, 0, 127⟩⟩) ∧
        c'.machine.state.lights.find? 2 = some (.ambient ⟨1, 2, 3⟩) := by
  intro lamp s
  have hok : (interpret s "room").1 = .ok [] := by decide +kernel
  obtain ⟨light, c', hl, hn, hslots⟩ :=
    ((interpret_sets_lights s rfl "room").2 [] hok _ (passes_room lamp)).1 "lamp" rfl
  obtain rfl : lamp = light := Option.some.inj hl
  exact ⟨rfl, hok, _, c', passes_room lamp, hn, hslots⟩

theorem light_without_part_is_passed :
    let s := Setting.litBy ⟨⟨1, 2, 3⟩, []⟩
    s.options.policy = .fail ∧ (interpret s "room").1 = .ok [] ∧
      ∃ c c', s.next.Passes (s.start "room") c ∧
        c.line? = some (.ok (some (.lightPair "lamp"))) ∧ s.next c = .goesOn c' ∧
        c'.machine.state.lights.find? 1 = none ∧ c'.machine.state.lights.find? 2 = none := by
  intro s
  refine ⟨rfl, by decide +kernel, _, _, passes_room _, rfl, rfl, rfl, rfl⟩

end SceneDraw.DisplayList
