import SceneDraw.Proofs.Scene.Bounds
import SceneDraw.Proofs.Scene.Skipping

/-! The textures that an object needs. A texture is looked up for each batch whose state samples it.
That is the state of its triangles, or for a batch without triangles the state that its vertices
were loaded in. So of the textures that are only bound, those count under which vertices were loaded
that nothing is drawn with before the next load. -/

namespace SceneDraw

def RenderState.Samples (state : RenderState) (texture : String) : Prop :=
  state.textureEnabled ∧ state.texture = some texture

instance (state : RenderState) (texture : String) : Decidable (state.Samples texture) :=
  inferInstanceAs (Decidable (_ ∧ _))

namespace DisplayList

def Undrawn (l : VertexLoad) (before past : History) : Prop :=
  ∃ mid : History, (∀ d ∈ mid, d.isQuiet) ∧
    (past = mid ++ .load l :: before ∨
      ∃ l' later, past = later ++ .load l' :: (mid ++ .load l :: before))

namespace Setting

variable (s : Setting)

def Draws (root texture : String) : Prop :=
  ∃ d ∈ s.drawn (s.trace root).past, d.state.Samples texture

def LoadsOnly (root texture : String) : Prop :=
  ∃ l before, Undrawn l before (s.trace root).past ∧ (s.live before).Samples texture

variable {s} {past before mid : History} {c : Command} {l : VertexLoad}

lemma load_of_isSome (h : c.load?.isSome) : ∃ l, c = .load l := by
  cases c with
  | load l => exact ⟨l, rfl⟩
  | _ => cases h

lemma groups_cons_cases (s : Setting) (past : History) (c : Command) :
    s.opens past c ∧ s.groups (c :: past) = ⟨c :: past, s.drawnBy past c⟩ :: s.groups past ∨
      s.opens past c = false ∧ (s.groups past = [] ∧ s.groups (c :: past) = [] ∨
        ∃ g older, s.groups past = g :: older ∧
          s.groups (c :: past) = { g with drawn := g.drawn ++ s.drawnBy past c } :: older) := by
  cases ho : s.opens past c with
  | true => exact .inl ⟨rfl, by simp [groups, ho]⟩
  | false =>
    refine .inr ⟨rfl, ?_⟩
    cases hg : s.groups past with
    | nil => exact .inl ⟨rfl, by simp [groups, ho, hg]⟩
    | cons g older => exact .inr ⟨g, older, rfl, groups_of_not_opens ho hg⟩

lemma groups_append_quiet (h : ∀ d ∈ mid, d.isQuiet) :
    s.groups (mid ++ past) = s.groups past := by
  induction mid with
  | nil => rfl
  | cons d mid ih =>
    obtain ⟨hd, h⟩ := List.forall_mem_cons.1 h
    obtain ⟨hl, ht⟩ : d.load? = none ∧ d.isTriangle = false := by simpa [Command.isQuiet] using hd
    rw [List.cons_append, groups_of_not_isTriangle hl ht, ih h]

lemma groups_of_load (s : Setting) (past : History) (l : VertexLoad) :
    s.groups (.load l :: past) = ⟨.load l :: past, []⟩ :: s.groups past :=
  if_pos rfl

lemma mem_tail_groups_append (later : History) {g : Group} (h : g ∈ (s.groups past).tail) :
    g ∈ (s.groups (later ++ past)).tail := by
  induction later with
  | nil => exact h
  | cons c later ih =>
    obtain ⟨-, hg⟩ | ⟨-, ⟨hp, -⟩ | ⟨g', older, hp, hg⟩⟩ := s.groups_cons_cases (later ++ past) c
    · rw [List.cons_append, hg]
      exact List.mem_of_mem_tail ih
    · rw [hp] at ih
      cases ih
    · rw [hp] at ih
      rw [List.cons_append, hg]
      exact ih

lemma mem_groups_of_undrawn (h : Undrawn l before past) :
    ⟨.load l :: before, []⟩ ∈ s.groups past := by
  obtain ⟨mid, hq, rfl | ⟨l', later, rfl⟩⟩ := h
  · rw [groups_append_quiet hq, groups_of_load]
    exact List.mem_cons_self
  · refine List.mem_of_mem_tail (mem_tail_groups_append later ?_)
    rw [groups_of_load, List.tail_cons, groups_append_quiet hq, groups_of_load]
    exact List.mem_cons_self

lemma undrawn_of_groups (l : VertexLoad) (before : History) {g : Group} {older : List Group}
    (h : s.groups past = g :: older) :
    (g.opening = .load l :: before → g.drawn = [] →
      ∃ mid : History, (∀ d ∈ mid, d.isQuiet) ∧ past = mid ++ .load l :: before) ∧
    ∀ g' ∈ older, g'.opening = .load l :: before → g'.drawn = [] →
      ∃ mid : History, (∀ d ∈ mid, d.isQuiet) ∧
        ∃ l' later, past = later ++ .load l' :: (mid ++ .load l :: before) := by
  induction past generalizing g older with
  | nil => cases h
  | cons c past ih =>
    obtain ⟨ho, hg⟩ | ⟨ho, ⟨-, hg⟩ | ⟨g₀, older₀, hp, hg⟩⟩ := s.groups_cons_cases past c
    · obtain ⟨rfl, rfl⟩ := List.cons.inj (hg.symm.trans h)
      refine ⟨fun hl _ => ⟨[], by simp, hl⟩, fun g' hg' hl hd => ?_⟩
      cases hp : s.groups past with
      | nil => simp [hp] at hg'
      | cons g₀ older₀ =>
        obtain ⟨hhead, htail⟩ := ih hp
        rw [hp] at hg'
        obtain rfl | hg' := List.mem_cons.1 hg'
        · obtain ⟨mid, hq, rfl⟩ := hhead hl hd
          rw [opens_after_load hq rfl] at ho
          obtain ⟨l', rfl⟩ := load_of_isSome ho
          exact ⟨mid, hq, l', [], rfl⟩
        · obtain ⟨mid, hq, l', later, rfl⟩ := htail g' hg' hl hd
          exact ⟨mid, hq, l', c :: later, rfl⟩
    · rw [hg] at h
      cases h
    · obtain ⟨rfl, rfl⟩ := List.cons.inj (hg.symm.trans h)
      obtain ⟨hhead, htail⟩ := ih hp
      refine ⟨fun hl hd => ?_, fun g' hg' hl hd => ?_⟩
      · obtain ⟨hd, hc⟩ := List.append_eq_nil_iff.1 hd
        obtain ⟨mid, hq, rfl⟩ := hhead hl hd
        have ht : c.isTriangle = false := by
          by_contra ht
          exact drawnBy_ne_nil (by simpa using ht) hc
        have hload : c.load? = none := by
          rw [opens_after_load hq rfl] at ho
          simpa using ho
        exact ⟨c :: mid, List.forall_mem_cons.2 ⟨by simp [Command.isQuiet, ht, hload], hq⟩, rfl⟩
      · obtain ⟨mid, hq, l', later, rfl⟩ := htail g' hg' hl hd
        exact ⟨mid, hq, l', c :: later, rfl⟩

lemma undrawn_of_mem_groups {g : Group} (h : g ∈ s.groups past) (hl : g.opening = .load l :: before)
    (hd : g.drawn = []) : Undrawn l before past := by
  cases hg : s.groups past with
  | nil => simp [hg] at h
  | cons g₀ older =>
    obtain ⟨hhead, htail⟩ := undrawn_of_groups l before hg
    rw [hg] at h
    obtain rfl | h := List.mem_cons.1 h
    · obtain ⟨mid, hq, hp⟩ := hhead hl hd
      exact ⟨mid, hq, .inl hp⟩
    · obtain ⟨mid, hq, hp⟩ := htail g h hl hd
      exact ⟨mid, hq, .inr hp⟩

end Setting

lemma drawn_eq_nil_iff {b : Batch} : b.drawn = [] ↔ b.triangles = [] := List.map_eq_nil_iff

lemma samples_iff {s : Setting} {root texture : String} {batches : List Batch}
    (h : (interpret s root).1 = .ok batches) :
    (∃ b ∈ batches, b.state.Samples texture) ↔ s.Draws root texture ∨ s.LoadsOnly root texture := by
  obtain ⟨-, m, rfl, hm⟩ := follows_of_interpret h
  have hfits : List.Forall₂ (Batch.Fits s) m.batches (s.groups (s.trace root).past).reverse :=
    List.forall₂_reverse_iff.2 hm.groups
  have hdrawn : m.batches.flatMap Batch.drawn = s.drawn (s.trace root).past := hm.drawn
  constructor
  · rintro ⟨b, hb, hsamples⟩
    obtain ⟨g, hg, hf⟩ := exists_of_forall₂ hfits hb
    cases hgd : g.drawn with
    | nil =>
      obtain ⟨l, before, hl, hstate⟩ := hf.undrawn (drawn_eq_nil_iff.1 (hf.drawn.trans hgd))
      exact .inr ⟨l, before, Setting.undrawn_of_mem_groups (List.mem_reverse.1 hg) hl hgd,
        hstate ▸ hsamples⟩
    | cons d ds =>
      have hd : d ∈ g.drawn := by simp [hgd]
      refine .inl ⟨d, hdrawn ▸ List.mem_flatMap.2 ⟨b, hb, hf.drawn ▸ hd⟩, ?_⟩
      rwa [hf.state d hd]
  · rintro (⟨d, hd, hsamples⟩ | ⟨l, before, hu, hsamples⟩)
    · rw [← hdrawn] at hd
      obtain ⟨b, hb, hd⟩ := List.mem_flatMap.1 hd
      obtain ⟨t, -, rfl⟩ := List.mem_map.1 hd
      exact ⟨b, hb, hsamples⟩
    · obtain ⟨b, hb, hf⟩ := exists_of_forall₂ hfits.flip
        (List.mem_reverse.2 (Setting.mem_groups_of_undrawn hu))
      obtain ⟨l', before', hl, hstate⟩ := hf.undrawn (drawn_eq_nil_iff.1 hf.drawn)
      obtain ⟨-, rfl⟩ := List.cons.inj hl
      exact ⟨b, hb, hstate ▸ hsamples⟩

end DisplayList

namespace Scene

open DisplayList (Batch)
open Layout (Placement)

namespace Compiler

variable (c : Compiler)

def Places (o : Object) (p : Placement) : Prop :=
  ∃ m animation ps, c.assets.models.find? o.model = some m ∧ c.motion m = .ok animation ∧
    c.placements m animation = .ok ps ∧ p ∈ ps

/-- The list samples the texture in drawing triangles, or in loading vertices that it draws nothing
with. -/
def Needs (list texture : String) : Prop :=
  c.setting.Draws list texture ∨ c.setting.LoadsOnly list texture

variable {c} {index : Nat} {transform : Matrix} {p : Placement} {o : Object} {texture : String}

lemma bindTexture_eq_error_iff {b : Batch} {e : DisplayList.Error} :
    c.bindTexture b = .error e ↔ ∃ texture, b.state.Samples texture ∧
      c.assets.textures.find? texture = none ∧ e = .missingTexture texture := by
  rw [bindTexture]
  cases hb : b.state.texture with
  | none => simp [RenderState.Samples, hb]
  | some name =>
    cases he : b.state.textureEnabled with
    | false => simp [RenderState.Samples, he]
    | true =>
      cases hf : c.assets.textures.find? name <;>
        simp [RenderState.Samples, hb, he, hf, eq_comm]

lemma list_ne_missingTexture (c : Compiler) (name texture : String) :
    c.list name ≠ .error (.missingTexture texture) := by
  have hscript (list : String) : c.setting.script list ≠ .error (.missingTexture texture) := by
    intro hs
    cases (script_eq_error_iff.1 hs).2
  intro h
  obtain hs | ⟨script, -, q, m, -, hf⟩ := DisplayList.error_iff_faults.1 h
  · exact hscript _ hs
  · cases hf with
    | call hs => exact hscript _ hs
    | jump hs => exact hscript _ hs
    | step _ hm => cases DisplayList.Machine.trouble_of_step hm

lemma needs_of_item
    (h : c.item index transform p = .error (.displayList (.missingTexture texture))) :
    c.assets.textures.find? texture = none ∧ c.Needs p.list texture ∧
      ∃ batches, (DisplayList.interpret c.setting p.list).1 = .ok batches := by
  rw [item] at h
  cases hl : c.list p.list with
  | error e =>
    rw [hl] at h
    dsimp only at h
    split_ifs at h
    obtain rfl : e = .missingTexture texture := Error.displayList.inj (Except.error.inj h)
    exact absurd hl (c.list_ne_missingTexture _ _)
  | ok batches =>
    simp only [hl] at h
    cases ht : batches.mapM c.bindTexture with
    | ok textures => simp [ht] at h
    | error e =>
      simp only [ht] at h
      obtain rfl : e = .missingTexture texture := Error.displayList.inj (Except.error.inj h)
      obtain ⟨pre, b, post, rfl, -, hb⟩ := mapM_eq_error_iff.1 ht
      obtain ⟨texture', hs, hf, he⟩ := bindTexture_eq_error_iff.1 hb
      obtain rfl := DisplayList.Error.missingTexture.inj he
      exact ⟨hf, (DisplayList.samples_iff hl).1 ⟨b, by simp, hs⟩, _, hl⟩

lemma error_of_motion {m : Model} {e : Error} (h : c.motion m = .error e) :
    ∃ name, e = .missingAnimation name := by
  rw [motion] at h
  split at h
  · cases h
  · split at h
    · cases h
    · split_ifs at h
      exact ⟨_, (Except.error.inj h).symm⟩

lemma error_of_placements {m : Model} {animation : Option Layout.Animation} {e : Error}
    (h : c.placements m animation = .error e) : ∃ cause, e = .layout cause := by
  rw [placements] at h
  cases hi : (Layout.interpret c.assets.sources.lookup animation c.config.layoutOptions
    m.layout).1 with
  | error cause =>
    rw [hi] at h
    exact ⟨cause, (Except.error.inj h).symm⟩
  | ok ps =>
    rw [hi] at h
    cases h

lemma item_of_items {ps : List Placement} {e : Error}
    (h : c.items index transform ps = .error e) : ∃ p ∈ ps, c.item index transform p = .error e := by
  obtain ⟨pre, p, post, rfl, -, hp⟩ := mapM_eq_error_iff.1 (items_eq_error_iff_mapM.1 h)
  exact ⟨p, by simp, hp⟩

lemma needs_of_object
    (h : c.object index o = .error (.displayList (.missingTexture texture))) :
    c.assets.textures.find? texture = none ∧ ∃ p, c.Places o p ∧ c.Needs p.list texture ∧
      ∃ batches, (DisplayList.interpret c.setting p.list).1 = .ok batches := by
  rw [object] at h
  cases hm : c.assets.models.find? o.model with
  | none => simp [hm] at h
  | some m =>
    rw [hm] at h
    obtain h | ⟨animation, ha, h⟩ := error_of_bind h
    · obtain ⟨name, he⟩ := error_of_motion h
      cases he
    obtain h | ⟨ps, hps, h⟩ := error_of_bind h
    · obtain ⟨cause, he⟩ := error_of_placements h
      cases he
    obtain ⟨p, hp, hi⟩ := item_of_items h
    obtain ⟨hf, hneeds, hl⟩ := needs_of_item hi
    exact ⟨hf, p, ⟨m, animation, ps, hm, ha, hps, hp⟩, hneeds, hl⟩

lemma Made.defined {d : DrawItem} (hd : c.Made d) (h : c.Needs d.list texture) :
    ∃ path, c.assets.textures.find? texture = some path := by
  obtain ⟨b, hb, hs⟩ := (DisplayList.samples_iff hd.list).2 h
  obtain ⟨index, transform, p, hshows⟩ := hd
  obtain ⟨t, -, ht⟩ := exists_of_forall₂ hshows.textures hb
  cases hf : c.assets.textures.find? texture with
  | some path => exact ⟨path, rfl⟩
  | none =>
    rw [bindTexture_eq_error_iff.2 ⟨texture, hs, hf, rfl⟩] at ht
    cases ht

end Compiler

theorem compileObject_textures (c : Compiler) (jobs : List Job) (index : Nat) (o : Object) :
    let result := (c.compileObject index o (c.run jobs {}).2).1
    (∀ texture, result = .error (.displayList (.missingTexture texture)) →
      c.assets.textures.find? texture = none ∧ ∃ p, c.Places o p ∧
        (∃ batches, (DisplayList.interpret c.setting p.list).1 = .ok batches) ∧
        (c.setting.Draws p.list texture ∨ c.setting.LoadsOnly p.list texture)) ∧
    ∀ items, result = .ok items → ∀ d ∈ items, ∀ texture,
      c.setting.Draws d.list texture ∨ c.setting.LoadsOnly d.list texture →
        ∃ path, c.assets.textures.find? texture = some path := by
  intro result
  have hr : result = c.object index o :=
    (Compiler.compileObject_gives c index o _
      (Compiler.run_answers (Compiler.sound_initial c) jobs).2).1
  refine ⟨fun texture h => ?_, fun items h d hd texture hneeds => ?_⟩
  · obtain ⟨hf, p, hp, hneeds, hl⟩ := Compiler.needs_of_object (hr.symm.trans h)
    exact ⟨hf, p, hp, hl, hneeds⟩
  · exact (Compiler.made_of_object (hr.symm.trans h) hd).defined hneeds

def Compiler.boat (lines : List String) : Compiler where
  assets :=
    { sources :=
        { layouts := .ofList
            [("boat_geo",
              ["GEO_DISPLAY_LIST(LAYER_OPAQUE, hull_dl)", "GEO_DISPLAY_LIST(LAYER_ALPHA, sail_dl)"])]
          displayLists := .ofList
            [("hull_dl",
              ["gsSPTexture(0x8000, 0x8000, 0, 0, G_ON)",
                "gsDPSetTextureImage(G_IM_FMT_RGBA, G_IM_SIZ_16b, 1, canvas)",
                "gsDPSetTextureImage(G_IM_FMT_RGBA, G_IM_SIZ_16b, 1, wood)",
                "gsSPVertex(boat_vtx, 3, 0)", "gsSP1Triangle(0, 1, 2, 0)"]),
              ("sail_dl",
                ["gsSPTexture(0x8000, 0x8000, 0, 0, G_ON)",
                  "gsDPSetTextureImage(G_IM_FMT_RGBA, G_IM_SIZ_16b, 1, canvas)",
                  "gsSPVertex(boat_vtx, 3, 0)"] ++ lines)] }
      vertices := .ofList
        [("boat_vtx", [0, 1, 2].map fun x => ⟨⟨x, 0, 0⟩, 0, ⟨0, 0⟩, ⟨0, 0, 0, 0⟩⟩)]
      textures := .ofList [("wood", "wood.png")]
      models := .ofList [("boat", ⟨"boat_geo", none⟩)] }
  config := {}

theorem compileObject_textures_boat :
    let c := Compiler.boat ["gsSP1Triangle(0, 1, 2, 0)"]
    (c.compileObject 0 { model := "boat" } {}).1 =
        .error (.displayList (.missingTexture "canvas")) ∧
      ∃ p, c.Places { model := "boat" } p ∧
        (c.setting.Draws p.list "canvas" ∨ c.setting.LoadsOnly p.list "canvas") := by
  intro c
  have h : (c.compileObject 0 { model := "boat" } {}).1 =
      .error (.displayList (.missingTexture "canvas")) := by decide +kernel
  obtain ⟨-, p, hp, -, hneeds⟩ :=
    (compileObject_textures c [] 0 { model := "boat" }).1 "canvas" h
  exact ⟨h, p, hp, hneeds⟩

theorem compileObject_fails_undrawn :
    let c := Compiler.boat []
    (c.compileObject 0 { model := "boat" } {}).1 =
        .error (.displayList (.missingTexture "canvas")) ∧
      ¬∃ p, c.Places { model := "boat" } p ∧ c.setting.Draws p.list "canvas" := by
  intro c
  refine ⟨by decide +kernel, ?_⟩
  rintro ⟨p, ⟨m, animation, ps, hm, ha, hps, hp⟩, d, hd, hsamples⟩
  obtain rfl : ⟨"boat_geo", none⟩ = m := Option.some.inj hm
  obtain rfl : none = animation := Except.ok.inj ha
  have hl : (c.placements ⟨"boat_geo", none⟩ none).toOption.map (·.map (·.list)) =
      some ["hull_dl", "sail_dl"] := by decide +kernel
  have hmem : p.list ∈ ["hull_dl", "sail_dl"] := by
    obtain ⟨ps', hps', hl⟩ := toOption_map_eq_some_iff.1 hl
    obtain rfl := Except.ok.inj (hps.symm.trans hps')
    exact hl ▸ List.mem_map_of_mem hp
  have hdrawn : ∀ list ∈ ["hull_dl", "sail_dl"], ∀ d ∈ c.setting.drawn (c.setting.trace list).past,
      ¬d.state.Samples "canvas" := by decide +kernel
  exact hdrawn p.list hmem d hd hsamples

end Scene

end SceneDraw
