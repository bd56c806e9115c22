import SceneDraw.Proofs.Scene.Strict

/-! More definitions change nothing that compiles already. Assets extend others if they have all that
these have, with the same values. A file that declares new names only extends what it is added to. -/

namespace SceneDraw

def KeyMap.Extends {α : Type} (m n : KeyMap String α) : Prop :=
  ∀ name a, m.find? name = some a → n.find? name = some a

namespace KeyMap.Extends

variable {α : Type} {m n : KeyMap String α} {name : String}

lemma refl (m : KeyMap String α) : m.Extends m := fun _ _ h => h

lemma insert (h : m.Extends n) (hn : m.find? name = none) (a : α) :
    m.Extends (n.insert name a) := by
  intro other b hb
  rw [find?_insert]
  by_cases he : name = other
  · subst he
    rw [hn] at hb
    cases hb
  · rw [if_neg he]
    exact h other b hb

end KeyMap.Extends

end SceneDraw

namespace SceneDraw.Scene

structure Assets.Extends (a a' : Assets) : Prop where
  layouts : a.sources.layouts.Extends a'.sources.layouts
  displayLists : a.sources.displayLists.Extends a'.sources.displayLists
  vertices : a.vertices.Extends a'.vertices
  lights : a.lights.Extends a'.lights
  textures : a.textures.Extends a'.textures
  animations : a.animations.Extends a'.animations
  models : a.models.Extends a'.models

structure Assets.Lacks (a : Assets) (name : String) : Prop where
  layouts : a.sources.layouts.find? name = none
  displayLists : a.sources.displayLists.find? name = none
  vertices : a.vertices.find? name = none
  lights : a.lights.find? name = none

instance (a : Assets) (name : String) : Decidable (a.Lacks name) :=
  decidable_of_iff
    (a.sources.layouts.find? name = none ∧ a.sources.displayLists.find? name = none ∧
      a.vertices.find? name = none ∧ a.lights.find? name = none)
    ⟨fun ⟨hg, hd, hv, hl⟩ => ⟨hg, hd, hv, hl⟩, fun ⟨hg, hd, hv, hl⟩ => ⟨hg, hd, hv, hl⟩⟩

namespace Assets

variable {a b b' : Assets} {type name : String} {body text : List Char}

lemma Extends.refl (a : Assets) : a.Extends a :=
  ⟨.refl _, .refl _, .refl _, .refl _, .refl _, .refl _, .refl _⟩

lemma Extends.addDeclaration (h : a.Extends b) (hn : a.Lacks name)
    (hb : b.addDeclaration type name body = .ok (some b')) : a.Extends b' := by
  simp only [Assets.addDeclaration] at hb
  split at hb
  · obtain rfl := Option.some.inj (Except.ok.inj hb)
    exact { h with layouts := h.layouts.insert hn.layouts _ }
  · obtain rfl := Option.some.inj (Except.ok.inj hb)
    exact { h with displayLists := h.displayLists.insert hn.displayLists _ }
  · obtain ⟨table, ht, hb⟩ := ok_of_bind hb
    obtain ⟨values, -, ht⟩ := ok_of_bind ht
    obtain ⟨vertices, -, ht⟩ := ok_of_bind ht
    obtain rfl := Except.ok.inj ht
    obtain rfl := Option.some.inj (Except.ok.inj hb)
    exact { h with vertices := h.vertices.insert hn.vertices _ }
  · obtain ⟨table, ht, hb⟩ := ok_of_bind hb
    obtain ⟨values, -, ht⟩ := ok_of_bind ht
    obtain ⟨light, -, ht⟩ := ok_of_bind ht
    obtain rfl := Except.ok.inj ht
    obtain rfl := Option.some.inj (Except.ok.inj hb)
    exact { h with lights := h.lights.insert hn.lights _ }
  · cases hb

lemma Extends.addDeclarations (h : a.Extends b) {ds : List (List Char × List Char)}
    (hn : ∀ d ∈ ds, a.Lacks (.ofList d.1)) (text : List Char) (count : Nat) :
    a.Extends (addDeclarations text ds b count).1 := by
  induction ds generalizing b count with
  | nil => exact h
  | cons d ds ih =>
    obtain ⟨hd, hn⟩ := List.forall_mem_cons.1 hn
    rw [Assets.addDeclarations]
    cases Source.declaredType? text d.1 with
    | none => exact ih h hn _
    | some type =>
      dsimp only
      cases hb : b.addDeclaration (.ofList type) (.ofList d.1) d.2 with
      | error e => exact h
      | ok added =>
        cases added with
        | none => exact ih h hn _
        | some b' => exact ih (h.addDeclaration hd hb) hn _

end Assets

lemma Assets.Extends.compiler {a a' : Assets} (h : a.Extends a') (config : Config) :
    Compiler.Extends ⟨a, config⟩ ⟨a', config⟩ where
  sources space name lines hl := by
    have hlookup (b : Assets) : b.sources.lookup space name = .ok lines ↔
        (b.sources.table space).find? name = some lines := by
      rw [Sources.lookup]
      cases (b.sources.table space).find? name <;> simp
    rw [hlookup] at hl ⊢
    cases space with
    | layout => exact h.layouts _ _ hl
    | displayList => exact h.displayLists _ _ hl
  vertices := h.vertices
  lights := h.lights
  textures := h.textures
  animations := h.animations
  models := h.models
  config := ⟨config.policy, rfl⟩

theorem compile_of_extends {a : Assets} {config : Config} {jobs : List Job} {os : List Object}
    {scene : Compiled} (hp : config.policy = .fail)
    (hs : (Compiler.compile ⟨a, config⟩ os (Compiler.run ⟨a, config⟩ jobs {}).2).1 = .ok scene) :
    (∀ a', a.Extends a' → ∀ jobs',
      (Compiler.compile ⟨a', config⟩ os (Compiler.run ⟨a', config⟩ jobs' {}).2).1 = .ok scene) ∧
    ∀ file : String,
      (∀ d ∈ Source.declarations (Source.keepVersion file.toList), a.Lacks (.ofList d.1)) →
      a.Extends (a.indexFile file).1 := by
  have hc (a : Assets) (jobs : List Job) :
      (Compiler.compile ⟨a, config⟩ os (Compiler.run ⟨a, config⟩ jobs {}).2).1 =
        Compiler.scene ⟨a, config⟩ 0 os {} :=
    (Compiler.compile_gives _ os _
      (Compiler.run_answers (Compiler.sound_initial ⟨a, config⟩) jobs).2).1
  rw [hc] at hs
  refine ⟨fun a' h jobs' => ?_, fun file hn => ?_⟩
  · rw [hc]
    exact ((h.compiler config).scene hp hs).1
  · exact (Assets.Extends.refl a).addDeclarations hn _ _

def garden : String := "const Gfx bush_dl[] = \x7b gsSPDisplayList(tree_dl), \x7d;"

theorem compile_of_extends_garden :
    let c := Compiler.orchard.withPolicy .fail
    let grown := (c.assets.indexFile garden).1
    let os : List Object := [{ model := "tree" }, { model := "tree" }]
    grown.sources.displayLists.contains "bush_dl" ∧
      ∃ scene, (c.compile os (c.run [] {}).2).1 = .ok scene ∧ scene.items.length = 4 ∧
        (Compiler.compile ⟨grown, c.config⟩ os
          (Compiler.run ⟨grown, c.config⟩ [.list "bush_dl"] {}).2).1 = .ok scene := by
  intro c grown os
  have four : (c.compile os (c.run [] {}).2).1.toOption.map (·.items.length) = some 4 := by
    decide +kernel
  have hf : ∀ d ∈ Source.declarations (Source.keepVersion garden.toList),
      c.assets.Lacks (.ofList d.1) := by decide +kernel
  refine ⟨by decide +kernel, ?_⟩
  obtain ⟨scene, h, hn⟩ := toOption_map_eq_some_iff.1 four
  have hc := @compile_of_extends c.assets c.config [] os scene rfl h
  exact ⟨scene, h, hn, hc.1 grown (hc.2 garden hf) _⟩

end SceneDraw.Scene
