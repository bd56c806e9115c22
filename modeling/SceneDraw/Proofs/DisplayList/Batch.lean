import Mathlib.Data.List.Infix
import Mathlib.Data.List.Nodup
import SceneDraw.Log
import SceneDraw.DisplayList.Batch

/-! What adding triangles does to a batch. Its corners grow at the end, so the triangles that it has
show what they showed before. A batch is current while its corners are those that the cache holds;
then each new triangle shows the vertices that the cache holds in its slots. -/

namespace SceneDraw.DisplayList

structure Attributes where
  position : Vec3 Float32
  textureCoordinates : Vec2 Float32
  cn : Vec4 UInt8

def Attributes.ofVertex (v : Vertex) : Attributes := ⟨v.position, v.textureCoordinates, v.cn⟩

/-- A triangle as it is drawn; a corner without a vertex has no attributes. -/
structure Drawn where
  state : RenderState
  corners : Vec3 (Option Attributes)

def Cache.attributes? (c : Cache) (slot : UInt32) : Option Attributes :=
  (c.get? slot).map .ofVertex

lemma Cache.lt_of_get? (c : Cache) {slot : UInt32} {v : Vertex} (h : c.get? slot = some v) :
    slot.toNat < cacheSize := by
  by_contra hlt
  simp [Cache.get?, hlt] at h

lemma Cache.get?_load (c : Cache) (start : Nat) (vertices : List Vertex) (slot : UInt32)
    (h : start + vertices.length ≤ cacheSize) :
    (c.load start vertices).get? slot =
      if start ≤ slot.toNat ∧ slot.toNat < start + vertices.length then
        vertices[slot.toNat - start]?
      else c.get? slot := by
  by_cases hs : slot.toNat < cacheSize
  · by_cases hl : start ≤ slot.toNat
    · by_cases hu : slot.toNat < start + vertices.length
      · have hi : slot.toNat - start < vertices.length := by omega
        simp [Cache.get?, Cache.load, hs, hl, hu, List.getElem?_eq_getElem hi]
      · have hi : vertices.length ≤ slot.toNat - start := by omega
        simp [Cache.get?, Cache.load, hs, hl, hu, List.getElem?_eq_none hi]
    · simp [Cache.get?, Cache.load, hs, hl]
  · rw [if_neg (by omega)]
    simp [Cache.get?, hs]

namespace Batch

def attributes? (b : Batch) (i : Nat) : Option Attributes :=
  match b.positions[i]?, b.uvs[i]?, b.colors[i]? with
  | some position, some uv, some cn => some ⟨position, uv, cn⟩
  | _, _, _ => none

def drawn (b : Batch) : List Drawn := b.triangles.map fun t => ⟨b.state, t.map b.attributes?⟩

structure WellFormed (b : Batch) : Prop where
  nodup : b.slots.Nodup
  slots : ∀ slot ∈ b.slots, slot.toNat < cacheSize
  indices : ∀ i ∈ b.indices, i < b.vertexCount

structure Current (cache : Cache) (b : Batch) : Prop extends b.WellFormed where
  vertices : ∀ c ∈ b.corners, cache.get? c.slot = some c.vertex

structure Extends (b b' : Batch) : Prop where
  name : b'.name = b.name
  state : b'.state = b.state
  corners : b.corners <+: b'.corners

variable {b b' : Batch} {cache : Cache} {slot : UInt32} {i : Nat}

lemma Extends.refl (b : Batch) : b.Extends b := ⟨rfl, rfl, List.prefix_refl _⟩

lemma Extends.trans {b'' : Batch} (h : b.Extends b') (h' : b'.Extends b'') : b.Extends b'' :=
  ⟨h'.name.trans h.name, h'.state.trans h.state, h.corners.trans h'.corners⟩

lemma attributes?_eq (b : Batch) (i : Nat) :
    b.attributes? i = (b.corners[i]?).map fun c => .ofVertex c.vertex := by
  cases h : b.corners[i]? <;>
    simp [attributes?, positions, uvs, colors, List.getElem?_map, h, Attributes.ofVertex]

lemma Extends.attributes? (h : b.Extends b') (hi : i < b.vertexCount) :
    b'.attributes? i = b.attributes? i := by
  rw [attributes?_eq, attributes?_eq, List.getElem?_eq_getElem hi,
    List.prefix_iff_getElem?.1 h.corners i hi]

lemma Extends.drawn (h : b.Extends b') (hw : b.WellFormed) (ht : b'.triangles = b.triangles) :
    b'.drawn = b.drawn := by
  rw [Batch.drawn, Batch.drawn, ht, h.state]
  refine List.map_congr_left fun t hm => ?_
  have hi (i : Nat) (hi : i ∈ t.toList) : b'.attributes? i = b.attributes? i :=
    h.attributes? (hw.indices i (List.mem_flatMap.2 ⟨t, hm, hi⟩))
  simp only [Vec3.map, hi t.x (by simp [Vec3.toList]), hi t.y (by simp [Vec3.toList]),
    hi t.z (by simp [Vec3.toList])]

lemma Current.addCorner (hc : b.Current cache) {v : Vertex} (hs : slot ∉ b.slots)
    (hv : cache.get? slot = some v) :
    Current cache { b with corners := b.corners ++ [⟨slot, v⟩] } where
  nodup := by
    simpa [slots, List.nodup_append] using
      ⟨hc.nodup, fun c hm he => hs (List.mem_map.2 ⟨c, hm, he⟩)⟩
  slots := by
    simpa [Batch.slots, or_imp, forall_and] using
      ⟨fun c hm => hc.slots _ (List.mem_map_of_mem hm), cache.lt_of_get? hv⟩
  indices i hi := (hc.indices i hi).trans_le (by simp [vertexCount])
  vertices := by simpa [or_imp, forall_and] using ⟨hc.vertices, hv⟩

lemma place_cases (h : b.place cache slot = .ok (b', i)) :
    (b' = b ∧ ∃ hi : i < b.corners.length, b.corners[i].slot = slot) ∨
      ∃ v, slot ∉ b.slots ∧ cache.get? slot = some v ∧ i = b.corners.length ∧
        b' = { b with corners := b.corners ++ [⟨slot, v⟩] } := by
  rw [place] at h
  split at h
  · rename_i j hj
    obtain ⟨rfl, rfl⟩ : b = b' ∧ j = i := by simpa using h
    obtain ⟨hi, hs, -⟩ := List.findIdx?_eq_some_iff_getElem.1 hj
    exact .inl ⟨rfl, hi, eq_of_beq hs⟩
  · rename_i hj
    split at h
    · rename_i v hv
      obtain ⟨rfl, rfl⟩ := Prod.mk.inj (Except.ok.inj h)
      have hs : slot ∉ b.slots := by
        simpa [slots, List.findIdx?_eq_none_iff] using hj
      exact .inr ⟨v, hs, hv, rfl, rfl⟩
    · cases h

lemma extends_of_place (h : b.place cache slot = .ok (b', i)) :
    b.Extends b' ∧ b'.triangles = b.triangles := by
  obtain ⟨rfl, -⟩ | ⟨v, -, -, -, rfl⟩ := place_cases h
  · exact ⟨.refl b', rfl⟩
  · exact ⟨⟨rfl, rfl, List.prefix_append _ _⟩, rfl⟩

lemma current_of_place (hc : b.Current cache) (h : b.place cache slot = .ok (b', i)) :
    b'.Current cache ∧ i < b'.vertexCount ∧ (cache.get? slot).isSome ∧
      b'.attributes? i = cache.attributes? slot := by
  obtain ⟨rfl, hi, rfl⟩ | ⟨v, hs, hv, rfl, rfl⟩ := place_cases h
  · have hv := hc.vertices _ (List.getElem_mem hi)
    refine ⟨hc, hi, by simp [hv], ?_⟩
    simp [attributes?_eq, Cache.attributes?, hv, List.getElem?_eq_getElem hi]
  · refine ⟨hc.addCorner hs hv, by simp [vertexCount], by simp [hv], ?_⟩
    simp [attributes?_eq, Cache.attributes?, hv]

lemma addTriangle_cases {t : Triangle} (h : b.addTriangle cache t = .ok b') :
    ∃ b₁ b₂ b₃ i j k, b.place cache t.x = .ok (b₁, i) ∧ b₁.place cache t.y = .ok (b₂, j) ∧
      b₂.place cache t.z = .ok (b₃, k) ∧
        b' = { b₃ with triangles := b₃.triangles ++ [⟨i, j, k⟩] } := by
  obtain ⟨⟨b₁, i⟩, h₁, h⟩ := ok_of_bind h
  obtain ⟨⟨b₂, j⟩, h₂, h⟩ := ok_of_bind h
  obtain ⟨⟨b₃, k⟩, h₃, h⟩ := ok_of_bind h
  exact ⟨b₁, b₂, b₃, i, j, k, h₁, h₂, h₃, (Except.ok.inj h).symm⟩

lemma extends_of_addTriangle {t : Triangle} (h : b.addTriangle cache t = .ok b') :
    b.Extends b' := by
  obtain ⟨b₁, b₂, b₃, i, j, k, h₁, h₂, h₃, rfl⟩ := addTriangle_cases h
  have e := ((extends_of_place h₁).1.trans (extends_of_place h₂).1).trans (extends_of_place h₃).1
  exact ⟨e.name, e.state, e.corners⟩

lemma extends_of_addTriangles {ts : List Triangle} (h : b.addTriangles cache ts = .ok b') :
    b.Extends b' := by
  induction ts generalizing b with
  | nil =>
    obtain rfl : b = b' := Except.ok.inj h
    exact .refl b
  | cons t ts ih =>
    obtain ⟨b₁, h₁, h₂⟩ := ok_of_bind h
    exact (extends_of_addTriangle h₁).trans (ih h₂)

lemma Current.addIndices (hc : b.Current cache) {t : Vec3 Nat}
    (ht : ∀ i ∈ t.toList, i < b.vertexCount) :
    Current cache { b with triangles := b.triangles ++ [t] } where
  nodup := hc.nodup
  slots := hc.slots
  indices i hi := by
    obtain hi | hi : i ∈ b.indices ∨ i ∈ t.toList := by simpa [indices] using hi
    · exact hc.indices i hi
    · exact ht i hi
  vertices := hc.vertices

lemma current_of_addTriangle {t : Triangle} (hc : b.Current cache)
    (h : b.addTriangle cache t = .ok b') :
    b'.Current cache ∧ (∀ slot ∈ t.toList, (cache.get? slot).isSome) ∧
      b'.drawn = b.drawn ++ [⟨b.state, t.map cache.attributes?⟩] := by
  obtain ⟨b₁, b₂, b₃, i, j, k, h₁, h₂, h₃, rfl⟩ := addTriangle_cases h
  obtain ⟨e₁, t₁⟩ := extends_of_place h₁
  obtain ⟨e₂, t₂⟩ := extends_of_place h₂
  obtain ⟨e₃, t₃⟩ := extends_of_place h₃
  obtain ⟨c₁, l₁, s₁, a₁⟩ := current_of_place hc h₁
  obtain ⟨c₂, l₂, s₂, a₂⟩ := current_of_place c₁ h₂
  obtain ⟨c₃, l₃, s₃, a₃⟩ := current_of_place c₂ h₃
  have hi : i < b₃.vertexCount := l₁.trans_le (e₂.trans e₃).corners.length_le
  have hj : j < b₃.vertexCount := l₂.trans_le e₃.corners.length_le
  have e := (e₁.trans e₂).trans e₃
  -- What is placed first is still there once all three corners are.
  have ha : Vec3.map b₃.attributes? ⟨i, j, k⟩ = t.map cache.attributes? := by
    simp only [Vec3.map, a₃, e₃.attributes? l₂, a₂, (e₂.trans e₃).attributes? l₁, a₁]
  refine ⟨c₃.addIndices (by simp [Vec3.toList, hi, hj, l₃]), by simp [Vec3.toList, s₁, s₂, s₃], ?_⟩
  rw [← e.drawn hc.toWellFormed (by rw [t₃, t₂, t₁]), ← ha, ← e.state]
  simp only [drawn, List.map_append, List.map_cons, List.map_nil]
  rfl

lemma current_of_addTriangles {ts : List Triangle} (hc : b.Current cache)
    (h : b.addTriangles cache ts = .ok b') :
    b'.Current cache ∧ (∀ t ∈ ts, ∀ slot ∈ t.toList, (cache.get? slot).isSome) ∧
      b'.drawn = b.drawn ++ ts.map fun t => ⟨b.state, t.map cache.attributes?⟩ := by
  induction ts generalizing b with
  | nil =>
    obtain rfl : b = b' := Except.ok.inj h
    exact ⟨hc, by simp, by simp⟩
  | cons t ts ih =>
    obtain ⟨b₁, h₁, h₂⟩ := ok_of_bind h
    obtain ⟨c₁, s₁, d₁⟩ := current_of_addTriangle hc h₁
    obtain ⟨c₂, s₂, d₂⟩ := ih c₁ h₂
    refine ⟨c₂, List.forall_mem_cons.2 ⟨s₁, s₂⟩, ?_⟩
    rw [d₂, d₁, (extends_of_addTriangle h₁).state, List.append_assoc]
    rfl

lemma Current.withState (hc : b.Current cache) (state : RenderState) :
    Current cache { b with state } where
  nodup := hc.nodup
  slots := hc.slots
  indices := hc.indices
  vertices := hc.vertices

lemma Current.restart (hc : b.Current cache) (state : RenderState) :
    (b.restart state).Current cache where
  nodup := hc.nodup
  slots := hc.slots
  indices i hi := by simp [Batch.restart, indices] at hi
  vertices := hc.vertices

lemma toNat_succ {start : UInt32} {n : Nat} (h : start.toNat + (n + 1) ≤ cacheSize) :
    (start + 1).toNat = start.toNat + 1 := by
  have hs : cacheSize = 32 := rfl
  have hlt : start.toNat + 1 < 2 ^ 32 := by omega
  rw [UInt32.toNat_add, UInt32.toNat_one, Nat.mod_eq_of_lt hlt]

lemma slots_cornersFrom {start : UInt32} {vertices : List Vertex}
    (h : start.toNat + vertices.length ≤ cacheSize) :
    (cornersFrom start vertices).map (·.slot.toNat) = List.range' start.toNat vertices.length := by
  induction vertices generalizing start with
  | nil => rfl
  | cons v vs ih =>
    have hs := toNat_succ h
    rw [List.length_cons] at h
    have ih := @ih (start + 1) (by omega)
    simp [cornersFrom, List.range'_succ, ih, hs]

lemma vertex_of_mem_cornersFrom {start : UInt32} {vertices : List Vertex} {c : Corner}
    (h : start.toNat + vertices.length ≤ cacheSize) (hm : c ∈ cornersFrom start vertices) :
    start.toNat ≤ c.slot.toNat ∧ c.slot.toNat < start.toNat + vertices.length ∧
      vertices[c.slot.toNat - start.toNat]? = some c.vertex := by
  induction vertices generalizing start with
  | nil => cases hm
  | cons v vs ih =>
    have hs := toNat_succ h
    rw [List.length_cons] at h ⊢
    obtain rfl | hm := List.mem_cons.1 hm
    · simp
    · obtain ⟨hl, hu, hv⟩ := @ih (start + 1) (by omega) hm
      refine ⟨by omega, by omega, ?_⟩
      rw [show c.slot.toNat - start.toNat = c.slot.toNat - (start + 1).toNat + 1 by omega,
        List.getElem?_cons_succ, hv]

lemma current_ofLoad (cache : Cache) (name : String) (state : RenderState) {start : UInt32}
    {vertices : List Vertex} (h : start.toNat + vertices.length ≤ cacheSize) :
    (ofLoad name state start vertices).Current (cache.load start.toNat vertices) where
  nodup := by
    refine List.Nodup.of_map UInt32.toNat ?_
    simp only [slots, ofLoad, List.map_map, Function.comp_def]
    exact slots_cornersFrom h ▸ List.nodup_range'
  slots slot hm := by
    obtain ⟨c, hc, rfl⟩ := List.mem_map.1 hm
    have := (vertex_of_mem_cornersFrom h hc).2.1
    omega
  indices i hi := by simp [ofLoad, indices] at hi
  vertices c hm := by
    obtain ⟨hl, hu, hv⟩ := vertex_of_mem_cornersFrom h hm
    rw [cache.get?_load _ _ _ h, if_pos ⟨hl, hu⟩, hv]

end Batch

end SceneDraw.DisplayList
