import SceneDraw.Proofs.DisplayList.Lights
import SceneDraw.Proofs.DisplayList.Partition

/-! The render state by its parts. What a command writes into a part is settled by the command, not
by the state. So each part holds what the latest command that writes it has written, and commands
that write no part in common can be exchanged. -/

namespace SceneDraw

namespace RenderState

inductive Part
  | flag (name : String)
  | slot (number : UInt32)
  | combine
  | texture
  | tile
  | enabled
  | scale
  | environment

def Part.Content : Part → Type
  | flag _ => Bool
  | slot _ => SlotLight
  | combine => CombineMode
  | texture => String
  | tile => Tile
  | enabled => Bool
  | scale => TextureScale
  | environment => Rgba

def part (s : RenderState) : (p : Part) → Option p.Content
  | .flag name => s.geometryMode.find? name
  | .slot number => s.lights.find? number
  | .combine => s.combine
  | .texture => s.texture
  | .tile => s.tile
  | .enabled => some s.textureEnabled
  | .scale => s.textureScale
  | .environment => s.environment

lemma eq_of_part {s t : RenderState} (h : ∀ p, s.part p = t.part p) : s = t := by
  have hmode : s.geometryMode = t.geometryMode := KeyMap.ext_find? fun name => h (.flag name)
  have hlights : s.lights = t.lights := KeyMap.ext_find? fun k => h (.slot k)
  have henabled : s.textureEnabled = t.textureEnabled := Option.some.inj (h .enabled)
  have hcombine : s.combine = t.combine := h .combine
  have htexture : s.texture = t.texture := h .texture
  have htile : s.tile = t.tile := h .tile
  have hscale : s.textureScale = t.textureScale := h .scale
  have henvironment : s.environment = t.environment := h .environment
  cases s
  cases t
  simp_all

lemma find?_assignFlags (s : RenderState) (value : Bool) (flags : List String) (name : String) :
    (s.assignFlags value flags).find? name =
      if name ∈ flags then some value else s.geometryMode.find? name := by
  rw [assignFlags]
  induction flags using List.reverseRecOn with
  | nil => rfl
  | append_singleton flags flag ih =>
    rw [List.foldl_concat, KeyMap.find?_insert, ih]
    by_cases hf : flag = name
    · simp [hf]
    · simp [hf, Ne.symm hf]

end RenderState

end SceneDraw

namespace SceneDraw.DisplayList

namespace Command

def flag? (name : String) : Command → Option Bool
  | setMode flags => if name ∈ flags then some true else none
  | clearMode flags => if name ∈ flags then some false else none
  | _ => none

def unlights : Command → Bool
  | clearMode flags => lightingFlag ∈ flags
  | _ => false

def combine? : Command → Option CombineMode
  | combine mode => some mode
  | _ => none

def environment? : Command → Option Rgba
  | environment color => some color
  | _ => none

def tile? : Command → Option Tile
  | tile t => some t
  | textureBlock _ _ _ t => some t
  | _ => none

def texture? : Command → Option String
  | textureImage _ _ _ name => some name
  | textureBlock name _ _ _ => some name
  | _ => none

def scale? : Command → Option TextureScale
  | texture scale _ => some scale
  | _ => none

def enabled? : Command → Option Bool
  | texture _ enable => enable
  | _ => none

end Command

namespace Setting

def slot? (s : Setting) (slot : UInt32) : Command → Option SlotLight
  | .lightPair name => do
    let light ← s.lights.find? name
    let d ← light.directional.head?
    if 2 = slot then some (.ambient light.ambient)
    else if 1 = slot then some (.directional d)
    else none
  | .light name part number =>
    if number = slot then (s.lights.find? name).bind (·.part? part) else none
  | _ => none

/-- What the command leaves in the part, if it writes it. A slot can be left empty. -/
def writes (s : Setting) (c : Command) : (p : RenderState.Part) → Option (Option p.Content)
  | .flag name => (c.flag? name).map some
  | .slot number => if c.unlights then some none else (s.slot? number c).map some
  | .combine => c.combine?.map some
  | .texture => c.texture?.map some
  | .tile => c.tile?.map some
  | .enabled => c.enabled?.map some
  | .scale => c.scale?.map some
  | .environment => c.environment?.map some

def Apart (s : Setting) (c d : Command) : Prop := ∀ p, s.writes c p = none ∨ s.writes d p = none

def Acts (s : Setting) (c : Command) (log : Log) : Prop :=
  ∀ state, ∃ state', s.apply state c = .ok (state', log) ∧
    ∀ p, state'.part p = (s.writes c p).getD (state.part p)

def Refused (s : Setting) (c : Command) : Prop :=
  (∀ p, s.writes c p = none) ∧ ∃ e, ∀ state, s.apply state c = .error e

variable {s : Setting} {c d : Command} {log : Log}

lemma acts_of_eq {f : RenderState → RenderState}
    (ha : ∀ state, s.apply state c = .ok (f state, log))
    (hf : ∀ state p, (f state).part p = (s.writes c p).getD (state.part p)) : s.Acts c log :=
  fun state => ⟨f state, ha state, hf state⟩

lemma acts_idle (hw : ∀ p, s.writes c p = none) (ha : ∀ state, s.apply state c = .ok (state, log)) :
    s.Acts c log :=
  acts_of_eq ha fun state p => by rw [hw, Option.getD_none]

lemma missing_cases (name : String) (hw : ∀ p, s.writes c p = none)
    (ha : ∀ state, s.apply state c = s.missingLight name state) :
    s.Refused c ∨ ∃ log, s.Acts c log := by
  cases hp : s.options.policy with
  | skip => exact .inr ⟨_, acts_idle hw fun state => by rw [ha, missingLight, hp]⟩
  | fail => exact .inl ⟨hw, _, fun state => by rw [ha, missingLight, hp]⟩

lemma writes_of_slots (hl : c.light?.isSome) (hs : ∀ slot, s.slot? slot c = none)
    (p : RenderState.Part) : s.writes c p = none := by
  cases c with
  | lightPair | light =>
    cases p with
    | slot number => exact congrArg (Option.map some) (hs number)
    | _ => rfl
  | _ => cases hl

lemma lightPair_cases (s : Setting) (name : String) :
    s.Refused (.lightPair name) ∨ ∃ log, s.Acts (.lightPair name) log := by
  cases hl : s.lights.find? name with
  | none =>
    have hs (slot : UInt32) : s.slot? slot (.lightPair name) = none := by simp [slot?, hl]
    exact missing_cases name (writes_of_slots rfl hs) fun state => by simp only [apply, hl]
  | some light =>
    refine .inr ?_
    cases hd : light.directional.head? with
    | none =>
      have hs (slot : UInt32) : s.slot? slot (.lightPair name) = none := by simp [slot?, hl, hd]
      refine ⟨warning s!"{name} has no directional light",
        acts_idle (writes_of_slots rfl hs) fun state => ?_⟩
      simp only [apply, hl, RenderState.setLightPair?, hd, Option.map_none]
    | some d =>
      have hs (slot : UInt32) : s.slot? slot (.lightPair name) =
          if 2 = slot then some (.ambient light.ambient)
          else if 1 = slot then some (.directional d) else none := by
        simp only [slot?, hl, hd, Option.bind_eq_bind, Option.bind_some]
      refine ⟨[], acts_of_eq
        (f := fun state => (state.setLight 1 (.directional d)).setLight 2 (.ambient light.ambient))
        (fun state => ?_) fun state p => ?_⟩
      · simp only [apply, hl, RenderState.setLightPair?, hd, Option.map_some]
      · cases p with
        | slot number =>
          simp only [RenderState.part, RenderState.setLight, KeyMap.find?_insert, writes,
            Command.unlights, Bool.false_eq_true, ↓reduceIte, hs]
          split_ifs <;> rfl
        | _ => rfl

lemma light_cases (s : Setting) (name : String) (part : LightPart) (slot : UInt32) :
    s.Refused (.light name part slot) ∨ ∃ log, s.Acts (.light name part slot) log := by
  cases hl : s.lights.find? name with
  | none =>
    have hs (number : UInt32) : s.slot? number (.light name part slot) = none := by
      simp [slot?, hl]
    exact missing_cases name (writes_of_slots rfl hs) fun state => by simp only [apply, hl]
  | some light =>
    refine .inr ?_
    cases hv : light.part? part with
    | none =>
      have hs (number : UInt32) : s.slot? number (.light name part slot) = none := by
        simp [slot?, hl, hv]
      exact ⟨warning s!"{name} has no light {part.display}",
        acts_idle (writes_of_slots rfl hs) fun state => by simp only [apply, hl, hv]⟩
    | some value =>
      have hs (number : UInt32) : s.slot? number (.light name part slot) =
          if slot = number then some value else none := by
        simp only [slot?, hl, hv, Option.bind_some]
      refine ⟨[], acts_of_eq (f := fun state => state.setLight slot value) (fun state => ?_)
        fun state p => ?_⟩
      · simp only [apply, hl, hv]
      · cases p with
        | slot number =>
          simp only [RenderState.part, RenderState.setLight, KeyMap.find?_insert, writes,
            Command.unlights, Bool.false_eq_true, ↓reduceIte, hs]
          split_ifs <;> rfl
        | _ => rfl

lemma apply_cases (s : Setting) (c : Command) : s.Refused c ∨ ∃ log, s.Acts c log := by
  cases c with
  | lightPair name => exact s.lightPair_cases name
  | light name part slot => exact s.light_cases name part slot
  | setMode flags =>
    refine .inr ⟨[], acts_of_eq (fun _ => rfl) fun state p => ?_⟩
    cases p with
    | flag name =>
      simp only [RenderState.part, RenderState.setFlags, RenderState.find?_assignFlags, writes,
        Command.flag?]
      split_ifs <;> rfl
    | _ => rfl
  | clearMode flags =>
    refine .inr ⟨[], acts_of_eq (fun _ => rfl) fun state p => ?_⟩
    cases p with
    | flag name =>
      simp only [RenderState.part, RenderState.clearFlags, RenderState.find?_assignFlags, writes,
        Command.flag?]
      split_ifs <;> rfl
    | slot number =>
      simp only [RenderState.part, RenderState.clearFlags, writes, Command.unlights,
        decide_eq_true_eq]
      split_ifs <;> rfl
    | _ => rfl
  | texture scale enable =>
    refine .inr ⟨[], acts_of_eq (fun _ => rfl) fun state p => ?_⟩
    cases p with
    | enabled => cases enable <;> rfl
    | _ => rfl
  | _ =>
    refine .inr ⟨[], acts_of_eq (fun _ => rfl) fun state p => ?_⟩
    cases p <;> rfl

lemma acts_of_apply {state state' : RenderState} (h : s.apply state c = .ok (state', log)) :
    s.Acts c log := by
  obtain ⟨-, e, he⟩ | ⟨log', hlog⟩ := s.apply_cases c
  · cases (he state).symm.trans h
  · obtain ⟨_, ha, -⟩ := hlog state
    obtain ⟨-, rfl⟩ := Prod.mk.inj (Except.ok.inj (ha.symm.trans h))
    exact hlog

lemma part_of_apply {state state' : RenderState} (h : s.apply state c = .ok (state', log))
    (p : RenderState.Part) : state'.part p = (s.writes c p).getD (state.part p) := by
  obtain ⟨_, ha, hp⟩ := acts_of_apply h state
  obtain ⟨rfl, -⟩ := Prod.mk.inj (Except.ok.inj (ha.symm.trans h))
  exact hp p

lemma part_live (past : History) (p : RenderState.Part) :
    (s.live past).part p =
      (past.findSome? (s.writes · p)).getD (RenderState.initial.part p) := by
  induction past with
  | nil => rfl
  | cons c past ih =>
    rw [live, List.findSome?_cons]
    obtain ⟨hw, e, he⟩ | ⟨log, hlog⟩ := s.apply_cases c
    · simp only [he, hw, ih]
    · obtain ⟨state', ha, hp⟩ := hlog (s.live past)
      simp only [ha, hp, ih]
      cases s.writes c p <;> rfl

lemma Apart.comm (h : s.Apart c d) {state state₁ state₂ : RenderState} {log log' : Log}
    (hc : s.apply state c = .ok (state₁, log)) (hd : s.apply state₁ d = .ok (state₂, log')) :
    ∃ state₁', s.apply state d = .ok (state₁', log') ∧ s.apply state₁' c = .ok (state₂, log) := by
  have hcs := acts_of_apply hc
  have hds := acts_of_apply hd
  obtain ⟨state₁', hd', hd₁⟩ := hds state
  obtain ⟨state₂', hc', hc₂⟩ := hcs state₁'
  have hsame : state₂' = state₂ := RenderState.eq_of_part fun p => by
    rw [hc₂, hd₁, part_of_apply hd, part_of_apply hc]
    obtain hn | hn := h p <;> rw [hn] <;> rfl
  exact ⟨state₁', hd', hsame ▸ hc'⟩

structure HoldsLast (s : Setting) (past : History) (state : RenderState) : Prop where
  flag (name : String) : state.flag name ↔ past.findSome? (·.flag? name) = some true ∨
    past.findSome? (·.flag? name) = none ∧ name = lightingFlag
  slot (number : UInt32) : state.lights.find? number =
    (past.takeWhile fun c => !c.unlights).findSome? (s.slot? number)
  combine : state.combine = past.findSome? (·.combine?)
  texture : state.texture = past.findSome? (·.texture?)
  tile : state.tile = past.findSome? (·.tile?)
  textureEnabled : state.textureEnabled = (past.findSome? (·.enabled?)).getD false
  textureScale : state.textureScale = past.findSome? (·.scale?)
  environment : state.environment = past.findSome? (·.environment?)

lemma part_live_of_map {p : RenderState.Part} {f : Command → Option p.Content}
    (hf : ∀ c, s.writes c p = (f c).map some) (past : History) :
    (s.live past).part p = (past.findSome? f).or (RenderState.initial.part p) := by
  have h : past.findSome? (s.writes · p) = (past.findSome? f).map some := by
    rw [List.map_findSome?]
    exact congrArg (past.findSome? ·) (funext hf)
  rw [part_live, h]
  cases past.findSome? f <;> rfl

lemma findSome?_slot (number : UInt32) (past : History) :
    (past.findSome? (s.writes · (.slot number))).getD none =
      (past.takeWhile fun c => !c.unlights).findSome? (s.slot? number) := by
  induction past with
  | nil => rfl
  | cons c past ih =>
    cases hu : c.unlights with
    | true =>
      simp only [List.findSome?_cons, List.takeWhile_cons, writes, hu, ↓reduceIte]
      rfl
    | false =>
      rw [List.takeWhile_cons_of_pos (by simp [hu]), List.findSome?_cons, List.findSome?_cons, ← ih]
      simp only [writes, hu, Bool.false_eq_true, ↓reduceIte]
      cases s.slot? number c <;> rfl

lemma flag_live (name : String) (past : History) : (s.live past).flag name =
    (past.findSome? (·.flag? name)).getD (decide (name = lightingFlag)) := by
  have h : (s.live past).geometryMode.find? name = (past.findSome? (·.flag? name)).or _ :=
    part_live_of_map (p := .flag name) (fun _ => rfl) past
  have hi : RenderState.initial.geometryMode.find? name =
      if lightingFlag = name then some true else none := KeyMap.find?_insert _ _ _ _
  rw [RenderState.flag, h, RenderState.part, hi]
  by_cases hn : name = lightingFlag
  · cases past.findSome? (·.flag? name) <;> simp [hn]
  · cases past.findSome? (·.flag? name) <;> simp [hn, Ne.symm hn]

lemma textureEnabled_live (past : History) :
    (s.live past).textureEnabled = (past.findSome? (·.enabled?)).getD false := by
  have h : some (s.live past).textureEnabled = (past.findSome? (·.enabled?)).or (some false) :=
    part_live_of_map (p := .enabled) (fun _ => rfl) past
  cases he : past.findSome? (·.enabled?) <;> simpa [he] using h

lemma holdsLast_live (s : Setting) (past : History) : s.HoldsLast past (s.live past) where
  flag name := by
    rw [flag_live]
    cases past.findSome? (·.flag? name) <;> simp
  slot number := (part_live past (.slot number)).trans (findSome?_slot number past)
  combine := (part_live_of_map (p := .combine) (fun _ => rfl) past).trans Option.or_none
  texture := (part_live_of_map (p := .texture) (fun _ => rfl) past).trans Option.or_none
  tile := (part_live_of_map (p := .tile) (fun _ => rfl) past).trans Option.or_none
  textureEnabled := textureEnabled_live past
  textureScale := (part_live_of_map (p := .scale) (fun _ => rfl) past).trans Option.or_none
  environment := (part_live_of_map (p := .environment) (fun _ => rfl) past).trans Option.or_none

end Setting

lemma enable_of_texture {args : List Arg} {scale : TextureScale} {enable : Option Bool}
    (h : ofCall ⟨"gsSPTexture", args⟩ = .ok (.texture scale enable)) :
    ∃ on, args[4]? = some on ∧ enable = on.bool? := by
  obtain ⟨-, -, h⟩ := ok_of_bind h
  obtain ⟨a, -, h⟩ := ok_of_bind h
  obtain ⟨b, -, h⟩ := ok_of_bind h
  obtain ⟨c, -, h⟩ := ok_of_bind h
  obtain ⟨d, -, h⟩ := ok_of_bind h
  obtain ⟨on, ho, h⟩ := ok_of_bind h
  cases h
  refine ⟨on, ?_, rfl⟩
  simp only [Call.arg] at ho
  split at ho
  · next ha => rw [ha, Except.ok.inj ho]
  · cases ho

theorem state_holds_last_written (s : Setting) :
    (∀ (t : Trace) m, t.play s {} = .ok m → s.HoldsLast t.past m.state) ∧
    (∀ eager depth root m, runNested s eager depth root {} = .ok m →
      s.HoldsLast (s.traceNested depth root).past m.state) ∧
    (∀ args scale enable, ofCall ⟨"gsSPTexture", args⟩ = .ok (.texture scale enable) →
      ∃ on, args[4]? = some on ∧ enable = on.bool?) ∧
    ∀ c d, s.Apart c d → ∀ state state₁ state₂ log log',
      s.apply state c = .ok (state₁, log) → s.apply state₁ d = .ok (state₂, log') →
        ∃ state₁', s.apply state d = .ok (state₁', log') ∧
          s.apply state₁' c = .ok (state₂, log) := by
  have hplay {t : Trace} {m : Machine} (h : t.play s {} = .ok m) : s.HoldsLast t.past m.state := by
    have hm := play_induction Machine.Follows.step (Machine.follows_initial s) h
    exact hm.state ▸ s.holdsLast_live t.past
  refine ⟨fun t m => hplay, fun eager depth root m h => hplay ?_, fun _ _ _ => enable_of_texture,
    fun c d h _ _ _ _ _ => h.comm⟩
  rwa [runNested_eq_play] at h

theorem state_holds_last_written_litBy :
    let lamp : Light := ⟨⟨1, 2, 3⟩, [⟨⟨4, 5, 6⟩, ⟨0, 0, 127⟩⟩]⟩
    let s := Setting.litBy lamp
    let t : Trace := { commands :=
      [.setMode ["G_FOG", "G_CULL_BACK"], .lightPair "lamp", .clearMode ["G_FOG", "G_LIGHTING"],
        .light "lamp" (.directional 0) 3, .texture ⟨1, 1, 0, 0⟩ (some true),
        .texture ⟨2, 2, 0, 0⟩ none].map (⟨"list", 0, ·⟩) }
    (∃ m, t.play s {} = .ok m ∧ ¬ m.state.flag "G_FOG" ∧ m.state.flag "G_CULL_BACK" ∧
      ¬ m.state.flag "G_LIGHTING" ∧ m.state.lights.find? 1 = none ∧
      m.state.lights.find? 3 = some (.directional ⟨⟨4, 5, 6⟩, ⟨0, 0, 127⟩⟩) ∧
      m.state.textureScale = some ⟨2, 2, 0, 0⟩ ∧ m.state.textureEnabled = true) ∧
    s.Apart (.lightPair "lamp") (.light "lamp" .ambient 3) ∧ ∃ state₁ state₂ state₁',
      s.apply .initial (.lightPair "lamp") = .ok (state₁, []) ∧
      s.apply state₁ (.light "lamp" .ambient 3) = .ok (state₂, []) ∧
      s.apply .initial (.light "lamp" .ambient 3) = .ok (state₁', []) ∧
      s.apply state₁' (.lightPair "lamp") = .ok (state₂, []) := by
  intro lamp s t
  obtain ⟨hplay, -, -, hcomm⟩ := state_holds_last_written s
  constructor
  · obtain ⟨m, hm⟩ : ∃ m, t.play s {} = .ok m := ⟨_, rfl⟩
    have h := hplay t m hm
    exact ⟨m, hm, by rw [h.flag]; decide, by rw [h.flag]; decide, by rw [h.flag]; decide,
      (h.slot 1).trans (by decide), (h.slot 3).trans (by decide), h.textureScale.trans (by decide),
      h.textureEnabled.trans (by decide)⟩
  · have hapart : s.Apart (.lightPair "lamp") (.light "lamp" .ambient 3) := by
      intro p
      cases p with
      | slot number =>
        by_cases h : number = 3
        · exact .inl (by subst h; rfl)
        · exact .inr (by simp [Setting.writes, Setting.slot?, Command.unlights, Ne.symm h]; rfl)
      | _ => exact .inl rfl
    obtain ⟨state₁', hd, hc⟩ := hcomm _ _ hapart .initial _ _ [] [] rfl rfl
    exact ⟨hapart, _, _, state₁', rfl, rfl, hd, hc⟩

end SceneDraw.DisplayList
