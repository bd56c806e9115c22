import SceneDraw.Proofs.DisplayList.Partition
import SceneDraw.Proofs.Scene.Result

/-! Batches are small and closed: they have a vertex for each of distinct slots of the cache, and
their triangles index these vertices only. So what a compiler answers can be drawn without an index
out of bounds. -/

namespace SceneDraw.DisplayList

structure Batch.Bounded (b : Batch) : Prop where
  uvs : b.uvs.length = b.positions.length
  colors : b.colors.length = b.positions.length
  slots : b.slots.length = b.positions.length
  vertices : b.positions.length ≤ 32
  nodup : b.slots.Nodup
  slot_lt : ∀ slot ∈ b.slots, slot.toNat < 32
  triangles : 3 ∣ b.indices.length
  index_lt : ∀ i ∈ b.indices, i < b.positions.length

namespace Batch

variable {b : Batch}

lemma length_indices (b : Batch) : b.indices.length = 3 * b.triangleCount := by
  rw [indices, triangleCount]
  induction b.triangles with
  | nil => rfl
  | cons t ts ih =>
    rw [List.flatMap_cons, List.length_append, ih, List.length_cons, Vec3.toList]
    simp
    omega

lemma WellFormed.length_slots_le (h : b.WellFormed) : b.slots.length ≤ cacheSize := by
  have hn : (b.slots.map UInt32.toNat).Nodup :=
    h.nodup.map fun _ _ => UInt32.toNat_inj.1
  have hs : b.slots.map UInt32.toNat ⊆ List.range cacheSize := by
    intro n hm
    obtain ⟨slot, hslot, rfl⟩ := List.mem_map.1 hm
    exact List.mem_range.2 (h.slots slot hslot)
  simpa using hn.length_le_of_subset hs

lemma WellFormed.bounded (h : b.WellFormed) : b.Bounded where
  uvs := by simp [uvs, positions]
  colors := by simp [colors, positions]
  slots := by simp [Batch.slots, positions]
  vertices := by simpa [Batch.slots, positions] using h.length_slots_le
  nodup := h.nodup
  slot_lt := h.slots
  triangles := ⟨_, b.length_indices⟩
  index_lt i hi := by simpa [vertexCount, positions] using h.indices i hi

end Batch

lemma bounded_of_interpret {s : Setting} {root : String} {batches : List Batch}
    (h : (interpret s root).1 = .ok batches) : ∀ b ∈ batches, b.Bounded := by
  obtain ⟨-, m, rfl, hm⟩ := follows_of_interpret h
  intro b hb
  exact (hm.wellFormed b (List.mem_reverse.1 hb)).bounded

end SceneDraw.DisplayList

namespace SceneDraw.Scene

open DisplayList (Batch)
open Layout (Placement)

/-- The vertex of a batch at an index, if that is within the bounds of all of its lists. -/
def worldVertex? (b : Batch) (transform : Matrix) (i : Nat) : Option DrawVertex := do
  let position ← b.positions[i]?
  let uv ← b.uvs[i]?
  let cn ← b.colors[i]?
  return {
    pos := (transform.point position).withW 1
    uv := uv.map texels
    shade := shade b.state transform cn }

lemma worldVertex?_eq (b : Batch) (transform : Matrix) (i : Nat) :
    worldVertex? b transform i = (worldVertices b transform)[i]? := by
  rw [worldVertex?, worldVertices, Batch.positions, Batch.uvs, Batch.colors]
  cases h : b.corners[i]? <;> simp [h]

def Answer.batches : Answer → List Batch
  | .list result => result.toOption.getD []
  | .object result => (result.toOption.getD []).flatMap (·.batches)
  | .scene result => (result.toOption.getD {}).items.flatMap (·.batches)

namespace Compiler

def Made (c : Compiler) (d : DrawItem) : Prop :=
  ∃ index transform p, c.Shows index transform p d

variable {c : Compiler} {index : Nat} {d : DrawItem}

lemma made_of_items {transform : Matrix} {ps : List Placement} {ds : List DrawItem}
    (h : c.items index transform ps = .ok ds) (hd : d ∈ ds) : c.Made d := by
  induction ps generalizing ds with
  | nil =>
    obtain rfl : [] = ds := Except.ok.inj h
    cases hd
  | cons p ps ih =>
    rw [items_cons] at h
    obtain ⟨item, hi, h⟩ := ok_of_bind h
    obtain ⟨ds', hds, h⟩ := ok_of_bind h
    obtain rfl : item.toList ++ ds' = ds := Except.ok.inj h
    rcases List.mem_append.1 hd with hd | hd
    · obtain ⟨d', rfl, hs⟩ | ⟨rfl, -⟩ := item_cases hi
      · obtain rfl : d = d' := by simpa using hd
        exact ⟨index, transform, p, hs⟩
      · cases hd
    · exact ih hds hd

lemma made_of_object {o : Object} {ds : List DrawItem} (h : c.object index o = .ok ds)
    (hd : d ∈ ds) : c.Made d := by
  rw [object] at h
  cases hm : c.assets.models.find? o.model with
  | none => simp [hm] at h
  | some m =>
    rw [hm] at h
    obtain ⟨animation, -, h⟩ := ok_of_bind h
    obtain ⟨ps, -, h⟩ := ok_of_bind h
    exact made_of_items h hd

lemma made_of_scene {os : List Object} {done scene : Compiled}
    (h : c.scene index os done = .ok scene) (hdone : ∀ d ∈ done.items, c.Made d)
    (hd : d ∈ scene.items) : c.Made d := by
  induction os generalizing index done with
  | nil =>
    obtain rfl : done = scene := Except.ok.inj h
    exact hdone d hd
  | cons o os ih =>
    rw [Compiler.scene] at h
    cases ho : c.object index o with
    | error e =>
      simp only [ho] at h
      split_ifs at h
      exact ih h hdone
    | ok ds =>
      simp only [ho] at h
      apply ih h
      intro d hd
      rcases List.mem_append.1 hd with hd | hd
      · exact hdone d hd
      · exact made_of_object ho hd

lemma Made.list (h : c.Made d) : c.list d.list = .ok d.batches := by
  obtain ⟨index, transform, p, h⟩ := h
  rw [h.list]
  exact h.batches

lemma Made.bounded (h : c.Made d) : ∀ b ∈ d.batches, b.Bounded :=
  DisplayList.bounded_of_interpret h.list

lemma list_of_mem_answer {job : Job} {b : Batch} (h : b ∈ (c.answer job).batches) :
    ∃ name batches, c.list name = .ok batches ∧ b ∈ batches := by
  cases job with
  | list name =>
    cases hl : c.list name with
    | error e => simp [answer, Answer.batches, hl, Except.toOption] at h
    | ok batches =>
      refine ⟨name, batches, hl, ?_⟩
      simpa [answer, Answer.batches, hl, Except.toOption] using h
  | object index o =>
    cases ho : c.object index o with
    | error e => simp [answer, Answer.batches, ho, Except.toOption] at h
    | ok ds =>
      obtain ⟨d, hd, hb⟩ : ∃ d ∈ ds, b ∈ d.batches := by
        simpa [answer, Answer.batches, ho, Except.toOption] using h
      exact ⟨d.list, d.batches, (made_of_object ho hd).list, hb⟩
  | scene os =>
    cases hs : c.scene 0 os {} with
    | error e => simp [answer, Answer.batches, hs, Except.toOption] at h
    | ok scene =>
      obtain ⟨d, hd, hb⟩ : ∃ d ∈ scene.items, b ∈ d.batches := by
        simpa [answer, Answer.batches, hs, Except.toOption] using h
      exact ⟨d.list, d.batches, (made_of_scene hs (by simp) hd).list, hb⟩

end Compiler

theorem batches_bounded :
    (∀ (s : DisplayList.Setting) root batches, (DisplayList.interpret s root).1 = .ok batches →
      ∀ b ∈ batches, b.Bounded) ∧
    ∀ (c : Compiler) jobs, ∀ a ∈ (c.run jobs {}).1, ∀ b ∈ a.batches, b.Bounded ∧
      ∀ transform, (worldVertices b transform).length = b.positions.length ∧
        ∀ i < b.positions.length, ∃ v, worldVertex? b transform i = some v ∧
          (worldVertices b transform)[i]? = some v := by
  refine ⟨fun s root batches h => DisplayList.bounded_of_interpret h, ?_⟩
  intro c jobs a ha b hb
  rw [(Compiler.run_answers (Compiler.sound_initial c) jobs).1] at ha
  obtain ⟨job, -, rfl⟩ := List.mem_map.1 ha
  obtain ⟨name, batches, hl, hb⟩ := Compiler.list_of_mem_answer hb
  refine ⟨DisplayList.bounded_of_interpret hl b hb, fun transform => ?_⟩
  have hlength : (worldVertices b transform).length = b.positions.length := by
    simp [worldVertices, Batch.positions]
  refine ⟨hlength, fun i hi => ?_⟩
  have hv := List.getElem?_eq_getElem (hlength ▸ hi)
  exact ⟨_, (worldVertex?_eq b transform i).trans hv, hv⟩

theorem batches_bounded_orchard :
    (∃ batches, (DisplayList.interpret .relay "root").1 = .ok batches ∧
      batches.map (·.triangleCount) = [2, 1, 3] ∧ ∀ b ∈ batches, b.Bounded) ∧
    ∃ a, (Compiler.orchard.run [.scene [{ model := "tree" }]] {}).1 = [a] ∧
      a.batches.map (·.indices) = [[0, 1, 2], [0, 1, 2]] ∧
      ∀ b ∈ a.batches, b.Bounded ∧ ∀ transform, ∀ i ∈ b.indices,
        ∃ v, worldVertex? b transform i = some v ∧ (worldVertices b transform)[i]? = some v := by
  obtain ⟨drawn, compiled⟩ := batches_bounded
  constructor
  · have six : (DisplayList.interpret .relay "root").1.toOption.map (·.map (·.triangleCount)) =
        some [2, 1, 3] := by
      decide
    obtain ⟨batches, hb, hn⟩ := toOption_map_eq_some_iff.1 six
    exact ⟨batches, hb, hn, drawn _ _ batches hb⟩
  · let answers := (Compiler.orchard.run [.scene [{ model := "tree" }]] {}).1
    have hi : answers.map (·.batches.map (·.indices)) = [[[0, 1, 2], [0, 1, 2]]] := by
      decide +kernel
    obtain ⟨a, ha, hi⟩ := List.map_eq_singleton_iff.1 hi
    refine ⟨a, ha, hi, fun b hb => ?_⟩
    obtain ⟨bounded, vertex⟩ := compiled Compiler.orchard _ a (ha ▸ List.mem_cons_self) b hb
    exact ⟨bounded, fun transform i him => (vertex transform).2 i (bounded.index_lt i him)⟩

end SceneDraw.Scene
