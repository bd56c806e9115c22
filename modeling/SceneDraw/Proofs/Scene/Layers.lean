import Mathlib.Algebra.BigOperators.Ring.List
import Mathlib.Algebra.Ring.Nat
import SceneDraw.Proofs.Scene.Bounds
import SceneDraw.Proofs.Scene.Strict

/-! The triangles of a scene reach its layers whole. No index of a batch is out of bounds, so none is
dropped on the way, and each item is in one layer. -/

namespace SceneDraw.Scene

open DisplayList (Batch)
open Layout (DrawLayer)

lemma map_some_filterMap_getElem? {α : Type} {vs : List α} {is : List Nat}
    (h : ∀ i ∈ is, i < vs.length) :
    (is.filterMap fun i => vs.toArray[i]?).map some = is.map (vs[·]?) := by
  induction is with
  | nil => rfl
  | cons i is ih =>
    obtain ⟨hi, his⟩ := List.forall_mem_cons.1 h
    simp [hi, ← ih his]

namespace DrawItem

variable {d : DrawItem}

lemma triangleCount_eq (d : DrawItem) :
    d.triangleCount = (d.batches.map (·.triangleCount)).sum := by
  rw [triangleCount, List.sum_eq_foldl, List.foldl_map]

lemma triangleVertices_eq (h : ∀ b ∈ d.batches, b.Bounded) :
    d.triangleVertices.map some =
      d.batches.flatMap fun b => b.indices.map (worldVertex? b d.transform) := by
  rw [triangleVertices, List.map_flatMap]
  refine List.flatMap_congr fun b hb => ?_
  have hi : ∀ i ∈ b.indices, i < (Scene.worldVertices b d.transform).length := by
    simpa [Scene.worldVertices, Batch.positions] using (h b hb).index_lt
  rw [map_some_filterMap_getElem? hi]
  exact List.map_congr_left fun i _ => (worldVertex?_eq b d.transform i).symm

lemma length_triangleVertices (h : ∀ b ∈ d.batches, b.Bounded) :
    d.triangleVertices.length = 3 * d.triangleCount := by
  have hl := congrArg List.length (triangleVertices_eq h)
  rw [List.length_map] at hl
  rw [hl, triangleCount_eq]
  induction d.batches with
  | nil => rfl
  | cons b bs ih => simp [ih, Batch.length_indices, Nat.mul_add]

end DrawItem

lemma Compiled.triangleCount_eq (s : Compiled) :
    s.triangleCount = (s.items.map (·.triangleCount)).sum := by
  rw [triangleCount, List.sum_eq_foldl, List.foldl_map]

lemma length_layerVertices {items : List DrawItem} (layer : DrawLayer)
    (h : ∀ d ∈ items, ∀ b ∈ d.batches, b.Bounded) :
    (layerVertices items layer).length =
      3 * ((items.filter (·.layer == layer)).map (·.triangleCount)).sum := by
  induction items with
  | nil => rfl
  | cons d items ih =>
    obtain ⟨hd, h⟩ := List.forall_mem_cons.1 h
    have ih := ih h
    rw [layerVertices] at ih ⊢
    by_cases hl : d.layer = layer
    · simp [hl, ih, DrawItem.length_triangleVertices hd, Nat.mul_add]
    · simp [hl, ih]

lemma sum_layers (items : List DrawItem) (f : DrawItem → Nat) :
    (DrawLayer.all.map fun layer => ((items.filter (·.layer == layer)).map f).sum).sum =
      (items.map f).sum := by
  induction items with
  | nil => rfl
  | cons d items ih =>
    rw [List.map_cons, List.sum_cons, ← ih]
    cases hl : d.layer <;> simp [DrawLayer.all, List.filter_cons, hl] <;> omega

/-- The vertices of all layers at their numbers, from one pass over the items. -/
def passLayers (layers : List (List DrawVertex)) (items : List DrawItem) : List (List DrawVertex) :=
  items.foldl (fun layers d => layers.modify d.layer.number (· ++ d.triangleVertices)) layers

lemma modify_layers (f : DrawLayer → List DrawVertex) (layer : DrawLayer) (vs : List DrawVertex) :
    (DrawLayer.all.map f).modify layer.number (· ++ vs) =
      DrawLayer.all.map fun l => if layer == l then f l ++ vs else f l := by
  cases layer <;> rfl

lemma passLayers_map (f : DrawLayer → List DrawVertex) (items : List DrawItem) :
    passLayers (DrawLayer.all.map f) items =
      DrawLayer.all.map fun layer => f layer ++ layerVertices items layer := by
  induction items generalizing f with
  | nil => simp [passLayers, layerVertices]
  | cons d items ih =>
    rw [passLayers, List.foldl_cons, modify_layers]
    refine (ih _).trans (List.map_congr_left fun layer _ => ?_)
    by_cases hl : d.layer = layer
    · simp [layerVertices, hl]
    · simp [layerVertices, hl]

theorem passLayers_layer (items : List DrawItem) (layer : DrawLayer) :
    (passLayers (.replicate 8 []) items)[layer.number]? = some (layerVertices items layer) := by
  have pass : passLayers (.replicate 8 []) items = DrawLayer.all.map (layerVertices items) :=
    passLayers_map (fun _ => []) items
  have at_number : DrawLayer.all[layer.number]? = some layer := layer.ofNumber?_number
  rw [pass, List.getElem?_map, at_number, Option.map_some]

lemma Compiler.isSome_bindTexture {c : Compiler} {b : Batch} {t : Option TextureBinding}
    (h : c.bindTexture b = .ok t) : t.isSome = b.state.usesTexture := by
  rw [bindTexture] at h
  rw [RenderState.usesTexture]
  cases hn : b.state.texture with
  | none =>
    rw [hn] at h
    simp [← Except.ok.inj h]
  | some name =>
    simp only [hn] at h
    split_ifs at h with ht
    · cases hf : c.assets.textures.find? name with
      | none => simp [hf] at h
      | some texture =>
        simp only [hf] at h
        simp [← Except.ok.inj h, ht]
    · simp [← Except.ok.inj h, ht]

theorem layerVertices_of_compile {c : Compiler} {jobs : List Job} {os : List Object}
    {scene : Compiled} (h : (c.compile os (c.run jobs {}).2).1 = .ok scene) :
    (∀ d ∈ scene.items, List.Forall₂ (fun b t => t.isSome = b.state.usesTexture) d.batches
      d.textures) ∧
    (∀ layer, (scene.layerVertices layer).map some =
      (scene.items.filter (·.layer == layer)).flatMap (fun d =>
        d.batches.flatMap fun b => b.indices.map (worldVertex? b d.transform)) ∧
      (scene.layerVertices layer).length =
        3 * ((scene.items.filter (·.layer == layer)).map (·.triangleCount)).sum) ∧
    (DrawLayer.all.map fun layer => (scene.layerVertices layer).length).sum =
      3 * scene.triangleCount := by
  rw [(Compiler.compile_gives c os _
    (Compiler.run_answers (Compiler.sound_initial c) jobs).2).1] at h
  have hmade (d : DrawItem) (hd : d ∈ scene.items) : c.Made d :=
    Compiler.made_of_scene h (by simp) hd
  have hb (d : DrawItem) (hd : d ∈ scene.items) := (hmade d hd).bounded
  refine ⟨fun d hd => ?_, fun layer => ⟨?_, length_layerVertices layer hb⟩, ?_⟩
  · obtain ⟨index, transform, p, hs⟩ := hmade d hd
    exact hs.textures.imp fun _ _ => Compiler.isSome_bindTexture
  · rw [Compiled.layerVertices, layerVertices, List.map_flatMap]
    refine List.flatMap_congr fun d hd => ?_
    exact DrawItem.triangleVertices_eq (hb d (List.mem_of_mem_filter hd))
  · have hl (layer : DrawLayer) := length_layerVertices layer hb
    simp only [Compiled.layerVertices, hl]
    rw [List.sum_map_mul_left, sum_layers, ← Compiled.triangleCount_eq]

theorem layerVertices_of_compile_orchard :
    let os : List Object := [{ model := "tree" }, { model := "tree" }]
    ∃ scene, (Compiler.orchard.compile os (Compiler.orchard.run [] {}).2).1 = .ok scene ∧
      scene.items.map (·.layer) = [.solid, .alpha, .solid, .alpha] ∧
      (DrawLayer.all.map fun layer => (scene.layerVertices layer).length).sum = 12 := by
  intro os
  have hn : (Compiler.orchard.compile os (Compiler.orchard.run [] {}).2).1.toOption.map
      (fun scene => (scene.items.map (·.layer), scene.triangleCount)) =
        some ([.solid, .alpha, .solid, .alpha], 4) := by
    decide +kernel
  obtain ⟨scene, h, hs⟩ := toOption_map_eq_some_iff.1 hn
  obtain ⟨hl, ht⟩ := Prod.mk.inj hs
  refine ⟨scene, h, hl, ?_⟩
  rw [(layerVertices_of_compile h).2.2, ht]

end SceneDraw.Scene
