import SceneDraw.Proofs.DisplayList.Activation

/-! Vertex loads with any operands. A load goes through if and only if the buffer has the vertices
and the cache has the slots. Then the slots hold the vertices, and all others are as they were. Any
other load ends the run. Its report has the last element that the load addresses, and is exact as
long as 32 bits hold that. -/

namespace SceneDraw.DisplayList

namespace VertexLoad

variable (l : VertexLoad) (available : Nat)

structure Fits : Prop where
  buffer : l.offset.toNat + l.count.toNat ≤ available
  cache : l.start.toNat + l.count.toNat ≤ cacheSize

/--
The last element that a load addresses, and how many elements there are, where it is past them. The
buffer is looked at first.
-/
inductive Overruns : Nat → Nat → Prop
  | buffer : available < l.offset.toNat + l.count.toNat →
      Overruns (l.offset.toNat + l.count.toNat - 1) available
  | cache : l.offset.toNat + l.count.toNat ≤ available →
      cacheSize < l.start.toNat + l.count.toNat →
      Overruns (l.start.toNat + l.count.toNat - 1) cacheSize

variable {l available} {last size : Nat}

lemma exists_overruns (h : ¬l.Fits available) : ∃ last size, l.Overruns available last size := by
  by_cases hb : l.offset.toNat + l.count.toNat ≤ available
  · exact ⟨_, _, .cache hb (Nat.lt_of_not_le fun hc => h ⟨hb, hc⟩)⟩
  · exact ⟨_, _, .buffer (Nat.lt_of_not_le hb)⟩

lemma Overruns.le (h : l.Overruns available last size) : size ≤ last := by
  cases h with
  | buffer hb => exact Nat.le_sub_one_of_lt hb
  | cache _ hc => exact Nat.le_sub_one_of_lt hc

end VertexLoad

section

variable {s : Setting} {c : RunState} {l : VertexLoad} {vertices : List Vertex}

lemma loadedVertices_of_le (hv : s.vertices.find? l.buffer = some vertices)
    (h : l.offset.toNat + l.count.toNat ≤ vertices.length) :
    ∃ loaded, s.loadedVertices l = .ok loaded := by
  rw [Setting.loadedVertices, hv]
  exact ⟨_, if_pos h⟩

lemma load_of_loadedVertices {loaded : List Vertex} (h : s.loadedVertices l = .ok loaded)
    (m : Machine) :
    m.load s l = if l.start.toNat + l.count.toNat ≤ cacheSize then
        .ok { m with
          cache := m.cache.load l.start.toNat loaded
          newest := .ofLoad l.buffer m.state l.start loaded :: m.newest }
      else .error (.invalidIndex (.ofNat (l.start.toNat + l.count.toNat - 1)) (.ofNat cacheSize)) := by
  rw [Machine.load, h, ← (Machine.loadedVertices_spec h).1]
  rfl

lemma exists_load_of_fits (hv : s.vertices.find? l.buffer = some vertices)
    (h : l.Fits vertices.length) (m : Machine) : ∃ m', m.load s l = .ok m' := by
  obtain ⟨loaded, hl⟩ := loadedVertices_of_le hv h.buffer
  rw [load_of_loadedVertices hl, if_pos h.cache]
  exact ⟨_, rfl⟩

lemma load_of_overruns (hv : s.vertices.find? l.buffer = some vertices) {last size : Nat}
    (h : l.Overruns vertices.length last size) (m : Machine) :
    m.load s l = .error (.invalidIndex (.ofNat last) (.ofNat size)) := by
  cases h with
  | buffer hb =>
    rw [Machine.load, Setting.loadedVertices, hv]
    exact congrArg (· >>= _) (if_neg (Nat.not_le.2 hb))
  | cache hb hc =>
    obtain ⟨loaded, hl⟩ := loadedVertices_of_le hv hb
    rw [load_of_loadedVertices hl, if_neg (Nat.not_le.2 hc)]

structure Machine.Loaded (m : Machine) (l : VertexLoad) (vertices : List Vertex) (m' : Machine) :
    Prop where
  slots : ∀ i < l.count.toNat, ∃ v, vertices[l.offset.toNat + i]? = some v ∧
    m'.cache.get? (.ofNat (l.start.toNat + i)) = some v
  others : ∀ slot : UInt32,
    slot.toNat < l.start.toNat ∨ l.start.toNat + l.count.toNat ≤ slot.toNat →
      m'.cache.get? slot = m.cache.get? slot
  state : m'.state = m.state
  newest : ∃ b, m'.newest = b :: m.newest ∧ b.name = l.buffer ∧ b.state = m.state

lemma loaded_of_load {m m' : Machine} (hv : s.vertices.find? l.buffer = some vertices)
    (hb : l.offset.toNat + l.count.toNat ≤ vertices.length) (h : m.load s l = .ok m') :
    m.Loaded l vertices m' := by
  obtain ⟨loaded, hl, hc, rfl⟩ := Machine.load_cases h
  obtain ⟨hn, hi⟩ := Machine.loadedVertices_spec hl
  refine ⟨fun i hlt => ?_, fun slot hs => ?_, rfl, _, rfl, rfl, rfl⟩
  · have hslot : (UInt32.ofNat (l.start.toNat + i)).toNat = l.start.toNat + i := by
      have hsize : cacheSize < 2 ^ 32 := by decide
      exact UInt32.toNat_ofNat_of_lt' (lt_of_lt_of_le (by omega : _ < cacheSize) hsize.le)
    have hget := hi i hlt
    rw [hv, Option.bind_some] at hget
    refine ⟨vertices[l.offset.toNat + i], List.getElem?_eq_getElem (by omega), ?_⟩
    rw [m.cache.get?_load _ _ _ hc, hslot, if_pos ⟨by omega, by omega⟩, Nat.add_sub_cancel_left, hget,
      List.getElem?_eq_getElem]
  · rw [m.cache.get?_load _ _ _ hc, hn, if_neg (by omega)]

lemma next_of_load (h : c.line? = some (.ok (some (.load l)))) :
    ∃ active, s.next c = match c.machine.load s l with
      | .ok m => .goesOn ⟨active, m⟩
      | .error e => .ends (c.machine.stop e) := by
  obtain ⟨a, callers, rest, ha, hr⟩ := RunState.line?_eq_some_iff.1 h
  refine ⟨a.goOn rest :: callers, ?_⟩
  simp only [Setting.next, ha, hr]
  exact Setting.carryOut_plain rfl _

end

structure Reports (last size : Nat) (index count : UInt32) : Prop where
  index_eq : index.toNat = last % 2 ^ 32
  count_eq : count.toNat = size % 2 ^ 32
  exact_of_lt : last < 2 ^ 32 → index.toNat = last ∧ count.toNat = size ∧ count ≤ index

lemma VertexLoad.Overruns.reports {l : VertexLoad} {available last size : Nat}
    (h : l.Overruns available last size) : Reports last size (.ofNat last) (.ofNat size) where
  index_eq := UInt32.toNat_ofNat'
  count_eq := UInt32.toNat_ofNat'
  exact_of_lt hlt := by
    have hl : (UInt32.ofNat last).toNat = last := UInt32.toNat_ofNat_of_lt' hlt
    have hs : (UInt32.ofNat size).toNat = size := UInt32.toNat_ofNat_of_lt' (h.le.trans_lt hlt)
    refine ⟨hl, hs, UInt32.le_iff_toNat_le.2 ?_⟩
    rw [hl, hs]
    exact h.le

theorem load_exact (s : Setting) (c : RunState) (l : VertexLoad) (vertices : List Vertex)
    (hc : c.line? = some (.ok (some (.load l)))) (hv : s.vertices.find? l.buffer = some vertices) :
    ((∃ c', s.next c = .goesOn c') ↔ l.offset.toNat + l.count.toNat ≤ vertices.length ∧
      l.start.toNat + l.count.toNat ≤ cacheSize) ∧
    (∀ c', s.next c = .goesOn c' → c.machine.Loaded l vertices c'.machine) ∧
    (¬(∃ c', s.next c = .goesOn c') → ∃ last size index count,
      l.Overruns vertices.length last size ∧ Reports last size index count ∧
      s.next c = .ends (c.machine.stop (.invalidIndex index count)) ∧
      ∀ root, s.next.Passes (s.start root) c →
        (interpret s root).1 = .error (.invalidIndex index count)) := by
  obtain ⟨active, hn⟩ := next_of_load (s := s) hc
  have goesOn (h : l.Fits vertices.length) :
      ∃ m', c.machine.load s l = .ok m' ∧ s.next c = .goesOn ⟨active, m'⟩ := by
    obtain ⟨m', hm⟩ := exists_load_of_fits hv h c.machine
    exact ⟨m', hm, by rw [hn, hm]⟩
  have ends {last size : Nat} (h : l.Overruns vertices.length last size) :
      s.next c = .ends (c.machine.stop (.invalidIndex (.ofNat last) (.ofNat size))) := by
    rw [hn, load_of_overruns hv h]
  have fits (h : ∃ c', s.next c = .goesOn c') : l.Fits vertices.length := by
    by_contra hf
    obtain ⟨last, size, ho⟩ := VertexLoad.exists_overruns hf
    obtain ⟨c', h⟩ := h
    rw [ends ho] at h
    cases h
  refine ⟨⟨fun h => ⟨(fits h).buffer, (fits h).cache⟩, fun h => ?_⟩, fun c' h => ?_, fun h => ?_⟩
  · obtain ⟨m', -, h⟩ := goesOn ⟨h.1, h.2⟩
    exact ⟨_, h⟩
  · have hf := fits ⟨c', h⟩
    obtain ⟨m', hm, h'⟩ := goesOn hf
    obtain rfl := Next.goesOn.inj (h.symm.trans h')
    exact loaded_of_load hv hf.buffer hm
  · have hf : ¬l.Fits vertices.length := fun hf => by
      obtain ⟨m', -, h'⟩ := goesOn hf
      exact h ⟨_, h'⟩
    obtain ⟨last, size, ho⟩ := VertexLoad.exists_overruns hf
    refine ⟨last, size, _, _, ho, ho.reports, ends ho, fun root hp => ?_⟩
    exact interpret_eq_error_iff_fails.2 (.inr ⟨c, hp, Setting.fails_iff.2 ⟨_, ends ho⟩⟩)

theorem load_exact_relay :
    let c (l : VertexLoad) : RunState := ⟨[⟨"root", 0, [.ok (some (.load l))], 0⟩], {}⟩
    (∃ c', Setting.relay.next (c ⟨"buffer", 1, 3, 29⟩) = .goesOn c' ∧
      c'.machine.cache.get? 31 = some ⟨⟨3, 0, 0⟩, 0, ⟨0, 0⟩, ⟨0, 0, 0, 0⟩⟩ ∧
      c'.machine.cache.get? 28 = none) ∧
    Setting.relay.next (c ⟨"buffer", 1, 3, 30⟩) = .ends (.error ⟨.invalidIndex 32 32, []⟩) := by
  intro c
  obtain ⟨vertices, hv, hn⟩ : ∃ vertices, Setting.relay.vertices.find? "buffer" = some vertices ∧
      vertices = [0, 1, 2, 3].map fun x => ⟨⟨x, 0, 0⟩, 0, ⟨0, 0⟩, ⟨0, 0, 0, 0⟩⟩ := ⟨_, rfl, rfl⟩
  subst hn
  constructor
  · obtain ⟨hfits, hloaded, -⟩ := load_exact .relay (c ⟨"buffer", 1, 3, 29⟩) _ _ rfl hv
    obtain ⟨c', h⟩ := hfits.2 (by decide)
    obtain ⟨v, hget, hslot⟩ := (hloaded c' h).slots 2 (by decide)
    exact ⟨c', h, hslot.trans (hget.symm.trans rfl), (hloaded c' h).others 28 (.inl (by decide))⟩
  · obtain ⟨hfits, -, hends⟩ := load_exact .relay (c ⟨"buffer", 1, 3, 30⟩) _ _ rfl hv
    obtain ⟨last, size, index, count, ho, hr, h, -⟩ :=
      hends fun h => absurd (hfits.1 h) (by decide)
    cases ho with
    | buffer hb => exact absurd hb (by decide)
    | cache =>
      obtain ⟨hi, hs, -⟩ := hr.exact_of_lt (by decide)
      rw [h, UInt32.toNat_inj.1 (hi.trans rfl : index.toNat = (32 : UInt32).toNat),
        UInt32.toNat_inj.1 (hs.trans rfl : count.toNat = (32 : UInt32).toNat)]
      rfl

theorem far_load_reports_first_vertex :
    let coins : Sources :=
      { displayLists := .ofList [("coins", ["gsSPVertex(coin_vtx + 4294967295, 2, 0)"])] }
    let s : Setting := ⟨scripts coins.lookup,
      .ofList [("coin_vtx", [⟨⟨0, 0, 0⟩, 0, ⟨0, 0⟩, ⟨0, 0, 0, 0⟩⟩])], ∅, {}⟩
    let l : VertexLoad := ⟨"coin_vtx", 4294967295, 2, 0⟩
    s.script "coins" = .ok [.ok (some (.load l))] ∧ l.Overruns 1 4294967296 1 ∧
      (interpret s "coins").1 = .error (.invalidIndex 0 1) := by
  intro coins s l
  exact ⟨congrArg Except.ok (by decide +kernel), .buffer (by decide), by decide +kernel⟩

end SceneDraw.DisplayList
