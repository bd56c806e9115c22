import SceneDraw.Proofs.DisplayList.Reach
import SceneDraw.Proofs.Layout.Branching
import SceneDraw.Proofs.Scene.Result

namespace SceneDraw.Layout

def Resolved {α : Type} (r : Except (Stopped Error) α) : Prop :=
  ∀ e, r = .error e → e.error.isResolution = false

lemma resolved_ok {α : Type} (a : α) : Resolved (.ok a) := fun _ h => nomatch h

lemma resolved_stop {α : Type} {w : Walk} {e : Error} (he : e.isResolution = false) :
    Resolved (w.stop (α := α) e) := by
  intro e' h
  obtain rfl := Except.error.inj h
  exact he

lemma resolved_parametric : Parametric fun _ r _ => Resolved r where
  ok a := resolved_ok a
  decode _ _ _ _ := resolved_stop rfl
  bind h hf := by
    intro e he
    obtain he | ⟨a, -, he⟩ := error_of_bind he
    · exact h e (by rw [he])
    · exact hf a e he

namespace Setting

variable {s : Setting}

lemma branching_resolved_of_error (hp : s.options.policy = .skip) {layout : String} {e : Error}
    (hs : s.script layout = .error e) (room : Nat) (path : List String) (node : Node) (w : Walk) :
    Resolved (s.branching room path layout node w) := by
  rw [branching, follow, hs]
  cases e with
  | missingLayout name =>
    simp only [hp]
    exact resolved_ok _
  | _ => exact resolved_stop rfl

lemma branching_resolved (hp : s.options.policy = .skip) (room : Nat) (path : List String)
    (layout : String) (node : Node) (w : Walk) :
    Resolved (s.branching room path layout node w) := by
  induction room generalizing path layout node w with
  | zero =>
    cases hs : s.script layout with
    | error e => exact branching_resolved_of_error hp hs _ _ _ _
    | ok script =>
      rw [branching_zero path hs]
      split <;> exact resolved_stop rfl
  | succ room ih =>
    cases hs : s.script layout with
    | error e => exact branching_resolved_of_error hp hs _ _ _ _
    | ok script =>
      rw [branching_succ room path hs]
      split
      · exact resolved_stop rfl
      · have hb := ih (layout :: path)
        exact @Parametric.runLines _ s _ (s.branching room path) resolved_parametric hb _ _ _ _ _

end Setting

lemma interpret_of_undefined {sources : Sources} {animation : Option Animation} {options : Options}
    {root : String} (h : sources.layouts.find? root = none) :
    (interpret sources.lookup animation options root).1 = .error (.missingLayout root) := by
  have hs : (settingOf sources.lookup options root).script root = .error (.missingLayout root) := by
    simp [settingOf, scripts, Sources.lookup, Sources.table, h, Error.ofLookup]
  rw [interpret_eq, runRoot, hs]
  rfl

lemma undefined_of_interpret {sources : Sources} {animation : Option Animation} {options : Options}
    {root : String} {e : Error} (hp : options.policy = .skip) (he : e.isResolution)
    (h : (interpret sources.lookup animation options root).1 = .error e) :
    sources.layouts.find? root = none := by
  cases hf : sources.layouts.find? root with
  | none => rfl
  | some lines =>
    have hs : (settingOf sources.lookup options root).script root = .ok (lines.map decodeLine) := by
      simp [settingOf, scripts, Sources.lookup, Sources.table, hf]
    rw [interpret_eq, Setting.runRoot_of_script hs] at h
    split at h
    · cases h
    · rename_i stopped hb
      obtain rfl := Except.error.inj h
      rw [Setting.branching_resolved hp _ _ _ _ _ _ hb] at he
      cases he

end SceneDraw.Layout

namespace SceneDraw.Scene

open DisplayList (Batch)
open Layout (Placement)

def Assets.Dangling (a : Assets) : DisplayList.Line → Prop
  | .ok (some (.call list)) | .ok (some (.jump list)) =>
    a.sources.displayLists.find? list = none
  | .ok (some (.load l)) => a.vertices.find? l.buffer = none
  | _ => False

namespace Compiler

variable (c : Compiler)

def Dangles (name : String) : Prop :=
  c.assets.sources.displayLists.find? name = none ∨ ∃ script q m,
    c.setting.script name = .ok script ∧
      c.setting.Visits c.config.maxDepth c.config.maxDepth name 0 script {} q m ∧
      c.assets.Dangling q.content

inductive Refuses (p : Placement) : DisplayList.Error → Prop
  | list {e : DisplayList.Error} :
      (DisplayList.interpret c.setting p.list).1 = .error e → e.isResolution = false →
      Refuses p e
  | texture {pre post : List Batch} {b : Batch} {e : DisplayList.Error} :
      (DisplayList.interpret c.setting p.list).1 = .ok (pre ++ b :: post) →
      (∀ b' ∈ pre, ∃ t, c.bindTexture b' = .ok t) → c.bindTexture b = .error e →
      Refuses p e

def flatten (m : Model) : Except Layout.Error (List Placement) :=
  (Layout.interpret c.assets.sources.lookup (m.animation.bind c.assets.animations.find?)
    c.config.layoutOptions m.layout).1

/-- What keeps an object from being compiled. Of its placements the first one refused counts. -/
inductive Fault (o : Object) : Error → Prop
  | model : c.assets.models.find? o.model = none → Fault o (.unknownModel o.model)
  | root {m : Model} : c.assets.models.find? o.model = some m →
      c.assets.sources.layouts.find? m.layout = none →
      Fault o (.layout (.missingLayout m.layout))
  | layout {m : Model} {e : Layout.Error} : c.assets.models.find? o.model = some m →
      c.flatten m = .error e → e.isResolution = false → Fault o (.layout e)
  | placement {m : Model} {pre post : List Placement} {p : Placement} {e : DisplayList.Error} :
      c.assets.models.find? o.model = some m → c.flatten m = .ok (pre ++ p :: post) →
      (∀ q ∈ pre, ∀ e, ¬c.Refuses q e) → c.Refuses p e → Fault o (.displayList e)

variable {c : Compiler}

lemma script_eq_error_iff {name : String} {e : DisplayList.Error} :
    c.setting.script name = .error e ↔
      c.assets.sources.displayLists.find? name = none ∧ e = .missingList name := by
  cases h : c.assets.sources.displayLists.find? name <;>
    simp [setting, DisplayList.scripts, Sources.lookup, Sources.table, h,
      DisplayList.Error.ofLookup, eq_comm]

lemma dangling_of_fails (hp : c.config.policy = .skip) {q : DisplayList.Site}
    {m : DisplayList.Machine} {e : DisplayList.Error} (h : q.Fails c.setting m e)
    (he : e.isResolution) : c.assets.Dangling q.content := by
  cases h with
  | decode => cases he
  | callTooDeep => cases he
  | call hs => exact (script_eq_error_iff.1 hs).1
  | jumpTooDeep => cases he
  | jump hs => exact (script_eq_error_iff.1 hs).1
  | step hc hm =>
    cases DisplayList.Machine.trouble_of_step hm with
    | buffer hl hv =>
      obtain rfl := hl
      exact hv
    | light hf => cases hp.symm.trans hf
    | empty => cases he
    | index => cases he

lemma fails_of_dangling {q : DisplayList.Site} (h : c.assets.Dangling q.content)
    (m : DisplayList.Machine) :
    ∃ e, q.Fails c.setting m e ∧ (e.isResolution ∨ ∃ name, e = .tooDeep name) := by
  obtain ⟨calls, jumps, list, line, content⟩ := q
  rcases content with _ | _ | command
  · cases h
  · cases h
  · cases command with
    | call name =>
      cases calls with
      | zero => exact ⟨_, .callTooDeep, .inr ⟨name, rfl⟩⟩
      | succ calls => exact ⟨_, .call (script_eq_error_iff.2 ⟨h, rfl⟩), .inl rfl⟩
    | jump name =>
      cases jumps with
      | zero => exact ⟨_, .jumpTooDeep, .inr ⟨name, rfl⟩⟩
      | succ jumps => exact ⟨_, .jump (script_eq_error_iff.2 ⟨h, rfl⟩), .inl rfl⟩
    | load l =>
      have hv : c.assets.vertices.find? l.buffer = none := h
      refine ⟨.missingBuffer l.buffer, .step rfl ?_, .inl rfl⟩
      have hl : c.setting.loadedVertices l = .error (.missingBuffer l.buffer) := by
        simp [DisplayList.Setting.loadedVertices, setting, hv]
      change m.load c.setting l = _
      rw [DisplayList.Machine.load, hl]
      rfl
    | _ => cases h

lemma dangles_of_list (hp : c.config.policy = .skip) {name : String} {e : DisplayList.Error}
    (h : c.list name = .error e) (he : e.isResolution) : c.Dangles name := by
  obtain hs | ⟨script, hs, q, m, hv, hf⟩ := DisplayList.error_iff_faults.1 h
  · exact .inl (script_eq_error_iff.1 hs).1
  · exact .inr ⟨script, q, m, hs, hv, dangling_of_fails hp hf he⟩

lemma list_of_dangles {name : String} (h : c.Dangles name) :
    ∃ e, c.list name = .error e ∧ (e.isResolution ∨ ∃ name, e = .tooDeep name) := by
  obtain h | ⟨script, q, m, hs, hv, hd⟩ := h
  · have hs := script_eq_error_iff.2 ⟨h, rfl⟩
    exact ⟨.missingList name, DisplayList.error_iff_faults.2 (.inl hs), .inl rfl⟩
  · obtain ⟨e, hf, he⟩ := fails_of_dangling hd m
    exact ⟨e, DisplayList.error_iff_faults.2 (.inr ⟨script, hs, q, m, hv, hf⟩), he⟩

variable {index : Nat} {transform : Matrix} {p : Placement} {ps : List Placement}

lemma refuses_iff {e : DisplayList.Error} :
    c.Refuses p e ↔ (c.list p.list = .error e ∧ e.isResolution = false) ∨
      ∃ batches, c.list p.list = .ok batches ∧ batches.mapM c.bindTexture = .error e := by
  constructor
  · rintro (⟨hl, he⟩ | ⟨hl, hpre, hb⟩)
    · exact .inl ⟨hl, he⟩
    · exact .inr ⟨_, hl, mapM_eq_error_iff.2 ⟨_, _, _, rfl, hpre, hb⟩⟩
  · rintro (⟨hl, he⟩ | ⟨batches, hl, hb⟩)
    · exact .list hl he
    · obtain ⟨pre, b, post, rfl, hpre, hb⟩ := mapM_eq_error_iff.1 hb
      exact .texture hl hpre hb

lemma item_eq_error_iff (hp : c.config.policy = .skip) {e : Error} :
    c.item index transform p = .error e ↔ ∃ e', c.Refuses p e' ∧ .displayList e' = e := by
  have hs : c.skipping = true := by simp [skipping, hp]
  simp only [refuses_iff]
  rw [item, hs]
  cases hl : c.list p.list with
  | error e' => cases he : e'.isResolution <;> simp [he, and_assoc]
  | ok batches => cases ht : batches.mapM c.bindTexture <;> simp [ht]

lemma item_eq_ok_iff (hp : c.config.policy = .skip) :
    (∃ r, c.item index transform p = .ok r) ↔ ∀ e, ¬c.Refuses p e := by
  constructor
  · rintro ⟨r, hr⟩ e he
    cases hr.symm.trans ((item_eq_error_iff hp).2 ⟨e, he, rfl⟩)
  · intro h
    cases hi : c.item index transform p with
    | error e =>
      obtain ⟨e', hr, -⟩ := (item_eq_error_iff hp).1 hi
      exact absurd hr (h e')
    | ok r => exact ⟨r, rfl⟩

lemma shows_or_dangles (hp : c.config.policy = .skip) {r : Option DrawItem}
    (h : c.item index transform p = .ok r) :
    (∃ d, r = some d ∧ c.Shows index transform p d ∧ ¬c.Dangles p.list) ∨
      r = none ∧ c.Dangles p.list := by
  obtain ⟨d, rfl, hd⟩ | ⟨rfl, -, e, hl, he⟩ := item_cases h
  · refine .inl ⟨d, rfl, hd, fun hdangles => ?_⟩
    obtain ⟨e, hl, -⟩ := list_of_dangles hdangles
    cases hd.batches.symm.trans hl
  · exact .inr ⟨rfl, dangles_of_list hp hl he⟩

lemma items_eq_error_iff (hp : c.config.policy = .skip) {e : Error} :
    c.items index transform ps = .error e ↔ ∃ pre p post, ps = pre ++ p :: post ∧
      (∀ q ∈ pre, ∀ e, ¬c.Refuses q e) ∧ ∃ e', c.Refuses p e' ∧ .displayList e' = e := by
  rw [items_eq_error_iff_mapM, mapM_eq_error_iff]
  simp only [item_eq_ok_iff hp, item_eq_error_iff hp]

open scoped Classical in
lemma shows_of_items (hp : c.config.policy = .skip) {items : List DrawItem}
    (h : c.items index transform ps = .ok items) :
    (∀ p ∈ ps, ∀ e, ¬c.Refuses p e) ∧
      List.Forall₂ (c.Shows index transform) (ps.filter fun p => ¬c.Dangles p.list) items := by
  induction ps generalizing items with
  | nil =>
    obtain rfl : [] = items := Except.ok.inj h
    exact ⟨by simp, .nil⟩
  | cons p ps ih =>
    rw [items_cons] at h
    obtain ⟨r, hr, h⟩ := ok_of_bind h
    obtain ⟨items', hi, h⟩ := ok_of_bind h
    obtain rfl : r.toList ++ items' = items := Except.ok.inj h
    obtain ⟨href, hshows⟩ := ih hi
    refine ⟨List.forall_mem_cons.2 ⟨(item_eq_ok_iff hp).1 ⟨r, hr⟩, href⟩, ?_⟩
    obtain ⟨d, rfl, hs, hn⟩ | ⟨rfl, hd⟩ := shows_or_dangles hp hr
    · rw [List.filter_cons_of_pos (by simpa using hn)]
      exact .cons hs hshows
    · rw [List.filter_cons_of_neg (by simpa using hd)]
      exact hshows

lemma map_list_of_shows {items : List DrawItem}
    (h : List.Forall₂ (c.Shows index transform) ps items) :
    items.map (·.list) = ps.map (·.list) := by
  induction h with
  | nil => rfl
  | cons hd _ ih => rw [List.map_cons, List.map_cons, ih, hd.list]

lemma isResolution_of_refuses {e : DisplayList.Error} (h : c.Refuses p e) :
    e.isResolution = false := by
  cases h with
  | list _ he => exact he
  | texture _ _ hb =>
    rw [bindTexture] at hb
    split at hb
    · cases hb
    · split_ifs at hb
      split at hb
      · obtain rfl := Except.error.inj hb
        rfl
      · cases hb

lemma motion_of_skip (hp : c.config.policy = .skip) (m : Model) :
    c.motion m = .ok (m.animation.bind c.assets.animations.find?) := by
  rw [motion]
  cases m.animation with
  | none => rfl
  | some name => cases hf : c.assets.animations.find? name <;> simp [hf, skipping, hp]

variable {o : Object} {m : Model}

lemma object_of_model (hp : c.config.policy = .skip) (hm : c.assets.models.find? o.model = some m) :
    c.object index o = (c.flatten m).mapError .layout >>= c.items index o.transform := by
  rw [object, hm]
  dsimp only
  rw [motion_of_skip hp]
  rfl

lemma flatten_eq_missing_iff (hp : c.config.policy = .skip) {e : Layout.Error}
    (he : e.isResolution) :
    c.flatten m = .error e ↔
      c.assets.sources.layouts.find? m.layout = none ∧ e = .missingLayout m.layout := by
  constructor
  · intro h
    have hu := Layout.undefined_of_interpret hp he h
    have hm : c.flatten m = .error (.missingLayout m.layout) := Layout.interpret_of_undefined hu
    exact ⟨hu, Except.error.inj (h.symm.trans hm)⟩
  · rintro ⟨hu, rfl⟩
    exact Layout.interpret_of_undefined hu

lemma object_eq_error_iff (hp : c.config.policy = .skip) {e : Error} :
    c.object index o = .error e ↔ c.Fault o e := by
  constructor
  · intro h
    cases hm : c.assets.models.find? o.model with
    | none =>
      rw [object, hm] at h
      obtain rfl := Except.error.inj h
      exact .model hm
    | some m =>
      rw [object_of_model hp hm] at h
      cases hf : c.flatten m with
      | error e' =>
        rw [hf] at h
        obtain rfl : Error.layout e' = e := Except.error.inj h
        cases he : e'.isResolution with
        | false => exact .layout hm hf he
        | true =>
          obtain ⟨hu, rfl⟩ := (flatten_eq_missing_iff hp he).1 hf
          exact .root hm hu
      | ok ps =>
        rw [hf] at h
        obtain ⟨pre, p, post, rfl, hpre, e', hr, rfl⟩ := (items_eq_error_iff hp).1 h
        exact .placement hm hf hpre hr
  · intro h
    cases h with
    | model hm => rw [object, hm]
    | root hm hu =>
      rw [object_of_model hp hm, (flatten_eq_missing_iff hp rfl).2 ⟨hu, rfl⟩]
      rfl
    | layout hm hf _ =>
      rw [object_of_model hp hm, hf]
      rfl
    | placement hm hf hpre hr =>
      rw [object_of_model hp hm, hf]
      exact (items_eq_error_iff hp).2 ⟨_, _, _, rfl, hpre, _, hr, rfl⟩

open scoped Classical in
lemma shows_of_object (hp : c.config.policy = .skip) {items : List DrawItem}
    (h : c.object index o = .ok items) :
    ∃ m ps, c.assets.models.find? o.model = some m ∧ c.flatten m = .ok ps ∧
      (∀ p ∈ ps, ∀ e, ¬c.Refuses p e) ∧
      List.Forall₂ (c.Shows index o.transform) (ps.filter fun p => ¬c.Dangles p.list) items := by
  cases hm : c.assets.models.find? o.model with
  | none => simp [object, hm] at h
  | some m =>
    rw [object_of_model hp hm] at h
    cases hf : c.flatten m with
    | error e =>
      rw [hf] at h
      cases h
    | ok ps =>
      rw [hf] at h
      exact ⟨m, ps, rfl, hf, shows_of_items hp h⟩

end Compiler

open scoped Classical in
/--
Under the policy to skip, an undefined animation, list, buffer, light or layout is never the error of
an object, its own layout apart, and each other error is. The items of an object are its placements
in order, without those whose lists need an undefined list or buffer.
-/
theorem compileObject_of_skip {c : Compiler} (hp : c.config.policy = .skip) (jobs : List Job)
    (index : Nat) (o : Object) :
    let result := (c.compileObject index o (c.run jobs {}).2).1
    (∀ name, result ≠ .error (.missingAnimation name)) ∧
      (∀ e, result = .error (.displayList e) → e.isResolution = false) ∧
      (∀ name, result = .error (.layout (.missingLayout name)) →
        ∃ m, c.assets.models.find? o.model = some m ∧ name = m.layout ∧
          c.assets.sources.layouts.find? name = none) ∧
      (∀ e, result = .error e ↔ c.Fault o e) ∧
      ∀ items, result = .ok items → ∃ m ps, c.assets.models.find? o.model = some m ∧
        c.flatten m = .ok ps ∧ (∀ p ∈ ps, ∀ e, ¬c.Refuses p e) ∧
        List.Forall₂ (c.Shows index o.transform) (ps.filter fun p => ¬c.Dangles p.list) items := by
  intro result
  have hr : result = c.object index o :=
    (Compiler.compileObject_gives c index o _
      (Compiler.run_answers (Compiler.sound_initial c) jobs).2).1
  have hfault (e : Error) : result = .error e ↔ c.Fault o e :=
    hr ▸ Compiler.object_eq_error_iff hp
  refine ⟨fun name h => ?_, fun e h => ?_, fun name h => ?_, hfault, fun items h => ?_⟩
  · cases (hfault _).1 h
  · cases (hfault _).1 h with
    | placement _ _ _ hr => exact Compiler.isResolution_of_refuses hr
  · cases (hfault _).1 h with
    | root hm hu => exact ⟨_, hm, rfl, hu⟩
    | layout _ _ he => cases he
  · exact Compiler.shows_of_object hp (hr ▸ h)

def Compiler.ruin : Compiler where
  assets :=
    { sources :=
        { layouts := .ofList
            [("ruin_geo",
              ["GEO_DISPLAY_LIST(LAYER_OPAQUE, roof_dl)", "GEO_BRANCH(1, tower_geo)",
                "GEO_DISPLAY_LIST(LAYER_OPAQUE, wall_dl)"])]
          displayLists := .ofList
            [("roof_dl", ["gsSPDisplayList(wall_dl)", "gsSPBranchList(beam_dl)"]),
              ("beam_dl", ["gsSPVertex(beam_vtx, 3, 0)"]),
              ("wall_dl", ["gsSPVertex(wall_vtx, 3, 0)", "gsSP1Triangle(0, 1, 2, 0)"])] }
      vertices := .ofList
        [("wall_vtx", [0, 1, 2].map fun x => ⟨⟨x, 0, 0⟩, 0, ⟨0, 0⟩, ⟨0, 0, 0, 0⟩⟩)]
      models := .ofList [("ruin", ⟨"ruin_geo", some "crumble"⟩)] }
  config := {}

theorem compileObject_of_skip_ruin :
    ∃ items ps, (Compiler.ruin.compileObject 0 { model := "ruin" } {}).1 = .ok items ∧
      items.map (·.list) = ["wall_dl"] ∧
      Compiler.ruin.flatten ⟨"ruin_geo", some "crumble"⟩ = .ok ps ∧
      ps.map (·.list) = ["roof_dl", "wall_dl"] ∧ Compiler.ruin.Dangles "roof_dl" ∧
      ¬Compiler.ruin.Dangles "wall_dl" := by
  classical
  have hi : (Compiler.ruin.compileObject 0 { model := "ruin" } {}).1.toOption.map
      (·.map (·.list)) = some ["wall_dl"] := by decide +kernel
  have hl : (Compiler.ruin.flatten ⟨"ruin_geo", some "crumble"⟩).toOption.map
      (·.map (·.list)) = some ["roof_dl", "wall_dl"] := by decide +kernel
  obtain ⟨items, h, hi⟩ := toOption_map_eq_some_iff.1 hi
  obtain ⟨ps, hps, hl⟩ := toOption_map_eq_some_iff.1 hl
  obtain ⟨m, ps', hm, hf, href, hshows⟩ :=
    (compileObject_of_skip (c := Compiler.ruin) rfl [] 0 { model := "ruin" }).2.2.2.2 items h
  obtain rfl : ⟨"ruin_geo", some "crumble"⟩ = m := Option.some.inj hm
  obtain rfl := Except.ok.inj (hps.symm.trans hf)
  have hk : ["roof_dl", "wall_dl"].filter (fun name => ¬Compiler.ruin.Dangles name) =
      ["wall_dl"] := by
    rw [← hl, ← hi, Compiler.map_list_of_shows hshows, List.filter_map]
    rfl
  have hmem (name : String) (hn : name ∈ ["roof_dl", "wall_dl"]) :
      ¬Compiler.ruin.Dangles name ↔ name ∈ ["wall_dl"] := by
    rw [← hk, List.mem_filter]
    simp only [hn, true_and, decide_eq_true_eq]
  refine ⟨items, ps, h, hi, hf, hl, ?_, ?_⟩
  · exact not_not.1 fun hd => absurd ((hmem "roof_dl" (by simp)).1 hd) (by decide)
  · exact (hmem "wall_dl" (by simp)).2 (by simp)

end SceneDraw.Scene
