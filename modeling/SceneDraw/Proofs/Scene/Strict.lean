import SceneDraw.Proofs.DisplayList.Linear
import SceneDraw.Proofs.Layout.Branching
import SceneDraw.Proofs.Scene.Result

/-! Strict runs, under the policy to fail. One that succeeds has found all that it asked for, so it
goes the same way wherever this is found again: under the other policy, and among more
definitions. A setting extends another if it finds all that the other finds. -/

namespace SceneDraw.DisplayList

structure Setting.Extends (s s' : Setting) : Prop where
  script : ∀ list script, s.script list = .ok script → s'.script list = .ok script
  vertices : ∀ name vs, s.vertices.find? name = some vs → s'.vertices.find? name = some vs
  lights : ∀ name light, s.lights.find? name = some light → s'.lights.find? name = some light
  maxDepth : s'.options.maxDepth = s.options.maxDepth

namespace Setting

variable {s s' : Setting} {m m' : Machine} {c : Command} {root : String}

lemma Extends.linear (h : s.Extends s') {calls jumps line : Nat} {name : String}
    {script : List Line} {cs : List Placed} (hl : s.Linear calls jumps name line script cs) :
    s'.Linear calls jumps name line script cs := by
  induction hl with
  | nil => exact .nil
  | blank _ ih => exact .blank ih
  | call hs _ _ ihc ih => exact .call (h.script _ _ hs) (h.maxDepth ▸ ihc) ih
  | jump hs _ ih => exact .jump (h.script _ _ hs) ih
  | finish => exact .finish
  | plain hp _ ih => exact .plain hp ih

lemma Extends.lit (h : s.Extends s') (hp : s.options.policy = .fail) {name : String}
    {state : RenderState} {r : RenderState × Log} {f : Light → Except Error (RenderState × Log)}
    (hr : (match s.lights.find? name with
      | none => s.missingLight name state
      | some light => f light) = .ok r) :
    (match s'.lights.find? name with
      | none => s'.missingLight name state
      | some light => f light) = .ok r := by
  cases hl : s.lights.find? name with
  | none => simp [hl, missingLight, hp] at hr
  | some light =>
    rw [hl] at hr
    rw [h.lights name light hl]
    exact hr

lemma Extends.apply (h : s.Extends s') (hp : s.options.policy = .fail) {state : RenderState}
    {r : RenderState × Log} (ha : s.apply state c = .ok r) : s'.apply state c = .ok r := by
  cases c with
  | lightPair name => exact h.lit hp ha
  | light name part slot => exact h.lit hp ha
  | _ => exact ha

lemma Extends.loadedVertices (h : s.Extends s') {l : VertexLoad} {vertices : List Vertex}
    (hl : s.loadedVertices l = .ok vertices) : s'.loadedVertices l = .ok vertices := by
  rw [Setting.loadedVertices] at hl ⊢
  cases hv : s.vertices.find? l.buffer with
  | none => simp [hv] at hl
  | some buffer =>
    rw [h.vertices _ _ hv]
    rw [hv] at hl
    exact hl

lemma Extends.step (h : s.Extends s') (hp : s.options.policy = .fail) {p : Placed}
    (hm : m.step s p = .ok m') : m.step s' p = .ok m' := by
  rw [Machine.step] at hm ⊢
  split_ifs at hm ⊢
  · exact hm
  · cases hc : p.command with
    | load l =>
      rw [hc] at hm
      obtain ⟨vertices, hv, hm⟩ := ok_of_bind hm
      rw [Machine.exec, Machine.load, h.loadedVertices hv]
      exact hm
    | _ =>
      rw [hc] at hm
      obtain ⟨r, hr, hm⟩ := ok_of_bind hm
      rw [Machine.exec, h.apply hp hr]
      · exact hm
      · simp

lemma Extends.foldlM_step (h : s.Extends s') (hp : s.options.policy = .fail) {ps : List Placed}
    (hm : ps.foldlM (Machine.step s) m = .ok m') : ps.foldlM (Machine.step s') m = .ok m' := by
  induction ps generalizing m with
  | nil => exact hm
  | cons p ps ih =>
    obtain ⟨m₁, h₁, hm⟩ := ok_of_bind hm
    rw [List.foldlM_cons, h.step hp h₁]
    exact ih hm

lemma Extends.interpret (h : s.Extends s') (hp : s.options.policy = .fail) {batches : List Batch}
    (hok : (interpret s root).1 = .ok batches) : (interpret s' root).1 = .ok batches := by
  obtain ⟨cs, m, ⟨script, hs, hl⟩, hm, hb⟩ := ok_iff_linearizes.1 hok
  apply ok_iff_linearizes.2
  exact ⟨cs, m, ⟨script, h.script _ _ hs, h.maxDepth ▸ h.linear hl⟩, h.foldlM_step hp hm, hb⟩

end Setting

end SceneDraw.DisplayList

namespace SceneDraw.Layout

structure Setting.Extends (s s' : Setting) : Prop where
  script : ∀ layout script, s.script layout = .ok script → s'.script layout = .ok script
  options : ∃ policy, s'.options = { s.options with policy }
  asymmetric : s'.asymmetric = s.asymmetric

namespace Setting

variable {s s' : Setting}

lemma refines_of_missing (hp : s.options.policy = .fail) {layout : String} {e : Error}
    (hs : s.script layout = .error e) (room : Nat) (path : List String) (node : Node) (w : Walk)
    (b : Outcome) : Refines (s.branching room path layout node w) b := by
  rw [Setting.branching, follow, hs]
  cases e <;> simp only [hp] <;> exact .of_error _

lemma Extends.branching (h : s.Extends s') (hp : s.options.policy = .fail) (room : Nat)
    (path : List String) : (s.branching room path).Refines (s'.branching room path) := by
  induction room generalizing path with
  | zero =>
    intro layout node w
    cases hs : s.script layout with
    | error e => exact refines_of_missing hp hs _ _ _ _ _
    | ok script =>
      rw [branching_zero path hs]
      exact .of_error _
  | succ room ih =>
    intro layout node w
    cases hs : s.script layout with
    | error e => exact refines_of_missing hp hs _ _ _ _ _
    | ok script =>
      rw [branching_succ room path hs, branching_succ room path (h.script _ _ hs)]
      split
      · exact .of_error _
      · obtain ⟨policy, ho⟩ := h.options
        rw [runLines_congr ⟨s.options.maxDepth, policy, ho⟩ h.asymmetric]
        exact runLines_mono (steps_mono (ih _) _ _)

lemma Extends.runRoot (h : s.Extends s') (hp : s.options.policy = .fail) (root : String)
    (playhead : Option Playhead) :
    Refines (runRoot s root playhead) (runRoot s' root playhead) := by
  cases hs : s.script root with
  | error e =>
    rw [Layout.runRoot, hs]
    exact .of_error _
  | ok script =>
    obtain ⟨policy, ho⟩ := h.options
    rw [runRoot_of_script hs, runRoot_of_script (h.script _ _ hs), ho]
    exact h.branching hp _ _ _ _ _

lemma Extends.interpret {lookup lookup' : Lookup} {options options' : Options} {root : String}
    (h : (settingOf lookup options root).Extends (settingOf lookup' options' root))
    (hp : options.policy = .fail) {animation : Option Animation} {ps : List Placement}
    (hok : (interpret lookup animation options root).1 = .ok ps) :
    (interpret lookup' animation options' root).1 = .ok ps := by
  obtain ⟨policy, ho⟩ := h.options
  obtain rfl : options' = { options with policy } := ho
  rw [interpret_eq] at hok ⊢
  split at hok
  · rename_i w hw
    rw [h.runRoot hp root _ w hw]
    exact hok
  · cases hok

end Setting

end SceneDraw.Layout

namespace SceneDraw.Scene

open DisplayList (Batch)
open Layout (Placement)

lemma mapM_of_ok {ε α β : Type} {f g : α → Except ε β} (h : ∀ a b, f a = .ok b → g a = .ok b)
    {as : List α} {bs : List β} (hf : as.mapM f = .ok bs) : as.mapM g = .ok bs :=
  mapM_eq_ok_iff.2 ((mapM_eq_ok_iff.1 hf).imp h)

namespace Compiler

structure Extends (c c' : Compiler) : Prop where
  sources : ∀ space name lines, c.assets.sources.lookup space name = .ok lines →
    c'.assets.sources.lookup space name = .ok lines
  vertices : ∀ name vs, c.assets.vertices.find? name = some vs →
    c'.assets.vertices.find? name = some vs
  lights : ∀ name light, c.assets.lights.find? name = some light →
    c'.assets.lights.find? name = some light
  textures : ∀ name texture, c.assets.textures.find? name = some texture →
    c'.assets.textures.find? name = some texture
  animations : ∀ name animation, c.assets.animations.find? name = some animation →
    c'.assets.animations.find? name = some animation
  models : ∀ name model, c.assets.models.find? name = some model →
    c'.assets.models.find? name = some model
  config : ∃ policy, c'.config = { c.config with policy }

variable {c c' : Compiler}

lemma Extends.setting (h : c.Extends c') : c.setting.Extends c'.setting where
  script list script hs := by
    have hs : DisplayList.scripts c.assets.sources.lookup list = .ok script := hs
    change DisplayList.scripts c'.assets.sources.lookup list = .ok script
    rw [DisplayList.scripts] at hs ⊢
    cases hl : c.assets.sources.lookup .displayList list with
    | error e => simp [hl] at hs
    | ok lines =>
      rw [h.sources _ _ _ hl]
      rwa [hl] at hs
  vertices := h.vertices
  lights := h.lights
  maxDepth := by
    obtain ⟨policy, hc⟩ := h.config
    simp only [Compiler.setting, Config.listOptions, hc]

lemma Extends.layoutSetting (h : c.Extends c') (root : String) :
    (Layout.settingOf c.assets.sources.lookup c.config.layoutOptions root).Extends
      (Layout.settingOf c'.assets.sources.lookup c'.config.layoutOptions root) := by
  obtain ⟨policy, hc⟩ := h.config
  constructor
  · intro layout script hs
    have hs : Layout.scripts c.assets.sources.lookup layout = .ok script := hs
    change Layout.scripts c'.assets.sources.lookup layout = .ok script
    rw [Layout.scripts] at hs ⊢
    cases hl : c.assets.sources.lookup .layout layout with
    | error e => simp [hl] at hs
    | ok lines =>
      rw [h.sources _ _ _ hl]
      rwa [hl] at hs
  · exact ⟨policy, by rw [hc]; rfl⟩
  · rw [hc]
    rfl

lemma Extends.list (h : c.Extends c') (hp : c.config.policy = .fail) {name : String}
    {batches : List Batch} (hl : c.list name = .ok batches) : c'.list name = .ok batches :=
  h.setting.interpret hp hl

lemma Extends.bindTexture (h : c.Extends c') {b : Batch} {binding : Option TextureBinding}
    (hb : c.bindTexture b = .ok binding) : c'.bindTexture b = .ok binding := by
  rw [Compiler.bindTexture] at hb ⊢
  cases hn : b.state.texture with
  | none => simpa [hn] using hb
  | some name =>
    simp only [hn] at hb ⊢
    split_ifs at hb ⊢ with ht
    · cases hf : c.assets.textures.find? name with
      | none => simp [hf] at hb
      | some texture => simpa [hf, h.textures name texture hf] using hb
    · exact hb

lemma not_skipping (hp : c.config.policy = .fail) : c.skipping = false := by
  simp [skipping, hp]

lemma Extends.item (h : c.Extends c') (hp : c.config.policy = .fail) {index : Nat}
    {transform : Matrix} {p : Placement} {item : Option DrawItem}
    (hi : c.item index transform p = .ok item) : c'.item index transform p = .ok item := by
  rw [Compiler.item] at hi ⊢
  cases hl : c.list p.list with
  | error e => simp [hl, not_skipping hp] at hi
  | ok batches =>
    rw [h.list hp hl]
    rw [hl] at hi
    dsimp only at hi ⊢
    cases ht : batches.mapM c.bindTexture with
    | error e => simp [ht] at hi
    | ok textures =>
      rw [mapM_of_ok (fun _ _ => h.bindTexture) ht]
      rwa [ht] at hi

lemma Extends.items (h : c.Extends c') (hp : c.config.policy = .fail) {index : Nat}
    {transform : Matrix} {ps : List Placement} {items : List DrawItem}
    (hi : c.items index transform ps = .ok items) : c'.items index transform ps = .ok items := by
  rw [Compiler.items] at hi ⊢
  cases hm : ps.mapM (c.item index transform) with
  | error e => simp [hm, Except.map] at hi
  | ok found =>
    rw [mapM_of_ok (fun _ _ => h.item hp) hm]
    rwa [hm] at hi

lemma Extends.motion (h : c.Extends c') (hp : c.config.policy = .fail) {m : Model}
    {animation : Option Layout.Animation} (hm : c.motion m = .ok animation) :
    c'.motion m = .ok animation := by
  rw [Compiler.motion] at hm ⊢
  cases hn : m.animation with
  | none => simpa [hn] using hm
  | some name =>
    simp only [hn] at hm ⊢
    cases hf : c.assets.animations.find? name with
    | none => simp [hf, not_skipping hp] at hm
    | some a => simpa [hf, h.animations name a hf] using hm

lemma Extends.placements (h : c.Extends c') (hp : c.config.policy = .fail) {m : Model}
    {animation : Option Layout.Animation} {ps : List Placement}
    (hl : c.placements m animation = .ok ps) : c'.placements m animation = .ok ps := by
  rw [Compiler.placements] at hl ⊢
  cases hi : (Layout.interpret c.assets.sources.lookup animation c.config.layoutOptions
    m.layout).1 with
  | error e => simp [hi, Except.mapError] at hl
  | ok found =>
    rw [(h.layoutSetting m.layout).interpret hp hi]
    rwa [hi] at hl

lemma Extends.object (h : c.Extends c') (hp : c.config.policy = .fail) {index : Nat} {o : Object}
    {items : List DrawItem} (ho : c.object index o = .ok items) :
    c'.object index o = .ok items := by
  rw [Compiler.object] at ho ⊢
  cases hf : c.assets.models.find? o.model with
  | none => simp [hf] at ho
  | some m =>
    rw [h.models _ _ hf]
    rw [hf] at ho
    obtain ⟨animation, ha, ho⟩ := ok_of_bind ho
    obtain ⟨ps, hps, ho⟩ := ok_of_bind ho
    dsimp only
    rw [h.motion hp ha]
    change c'.placements m animation >>= _ = _
    rw [h.placements hp hps]
    exact h.items hp ho

lemma Extends.scene (h : c.Extends c') (hp : c.config.policy = .fail) {index : Nat}
    {os : List Object} {done scene : Compiled} (hs : c.scene index os done = .ok scene) :
    c'.scene index os done = .ok scene ∧ scene.skipped = done.skipped := by
  induction os generalizing index done with
  | nil =>
    obtain rfl : done = scene := Except.ok.inj hs
    exact ⟨rfl, rfl⟩
  | cons o os ih =>
    rw [Compiler.scene] at hs ⊢
    cases ho : c.object index o with
    | error e => simp [ho, not_skipping hp] at hs
    | ok items =>
      rw [h.object hp ho]
      rw [ho] at hs
      exact ih hs

def withPolicy (c : Compiler) (policy : MissingPolicy) : Compiler :=
  { c with config := { c.config with policy } }

end Compiler

theorem compile_of_strict {c : Compiler} {os : List Object} {scene : Compiled}
    (h : ((c.withPolicy .fail).compile os {}).1 = .ok scene) :
    ((c.withPolicy .skip).compile os {}).1 = .ok scene ∧ scene.skipped = [] := by
  have he : (c.withPolicy .fail).Extends (c.withPolicy .skip) :=
    ⟨fun _ _ _ => id, fun _ _ => id, fun _ _ => id, fun _ _ => id, fun _ _ => id, fun _ _ => id,
      .skip, rfl⟩
  have hc (c : Compiler) : (c.compile os {}).1 = c.scene 0 os {} :=
    (Compiler.compile_gives c os {} (Compiler.sound_initial c)).1
  rw [hc] at h ⊢
  exact he.scene rfl h

theorem compile_of_strict_orchard :
    let os : List Object := [{ model := "tree" }, { model := "tree" }]
    ∃ scene, ((Compiler.orchard.withPolicy .fail).compile os {}).1 = .ok scene ∧
      scene.items.length = 4 ∧
      ((Compiler.orchard.withPolicy .skip).compile os {}).1 = .ok scene := by
  intro os
  have four : ((Compiler.orchard.withPolicy .fail).compile os {}).1.toOption.map
      (·.items.length) = some 4 := by
    decide +kernel
  obtain ⟨scene, h, hn⟩ := toOption_map_eq_some_iff.1 four
  exact ⟨scene, h, hn, (compile_of_strict h).1⟩

end SceneDraw.Scene
