import SceneDraw.Proofs.Basic
import SceneDraw.Proofs.DisplayList.History

/-! The batches of a run partition the triangles that its commands drew, each triangle in the state
and with the vertices of its time, and there are no more batches than the changes of state ask for.

The invariant of a run is that the machine follows the history: cache and state are those that the
history leads to, the newest batch is current with the cache and has the state that was last drawn
in, and each batch fits its group. -/

namespace SceneDraw.DisplayList

structure Batch.Fits (s : Setting) (b : Batch) (g : Group) : Prop where
  name : lastBuffer g.opening = some b.name
  drawn : b.drawn = g.drawn
  state : ∀ d ∈ g.drawn, d.state = b.state
  undrawn : b.triangles = [] → ∃ l past, g.opening = .load l :: past ∧ b.state = s.live past

structure Machine.Follows (s : Setting) (past : History) (m : Machine) : Prop where
  state : m.state = s.live past
  cache : ∀ slot, m.cache.get? slot = s.written slot past
  drawn : m.newest.reverse.flatMap Batch.drawn = s.drawn past
  defined : ∀ d ∈ s.drawn past, ∀ a ∈ d.corners.toList, a.isSome
  groups : List.Forall₂ (Batch.Fits s) m.newest (s.groups past)
  wellFormed : ∀ b ∈ m.newest, b.WellFormed
  current : ∀ b ∈ m.newest.head?, b.Current m.cache
  buffer : lastBuffer past = m.newest.head?.map (·.name)
  lastDrawn : s.lastDrawn past =
    m.newest.head?.bind fun b => if b.triangles = [] then none else some b.state

namespace Machine

variable {s : Setting} {past : History} {m m' : Machine} {c : Command}

lemma follows_initial (s : Setting) : Follows s [] {} where
  state := rfl
  cache slot := by
    by_cases h : slot.toNat < cacheSize <;> simp [Cache.empty, Cache.get?, h, Setting.written]
  drawn := rfl
  defined := by simp [Setting.drawn]
  groups := .nil
  wellFormed := by simp
  current := by simp
  buffer := rfl
  lastDrawn := rfl

lemma Follows.apply (h : Follows s past m) (hl : c.load? = none) (ht : c.isTriangle = false)
    {state : RenderState} {log : Log} (hs : s.apply m.state c = .ok (state, log)) :
    Follows s (c :: past) { m with state, log := m.log ++ log } where
  state := by simp [Setting.live, ← h.state, hs]
  cache slot := by simpa [Setting.written, hl] using h.cache slot
  drawn := by simpa [Setting.drawn, Setting.drawnBy_of_not_isTriangle ht] using h.drawn
  defined := by simpa [Setting.drawn, Setting.drawnBy_of_not_isTriangle ht] using h.defined
  groups := by simpa only [Setting.groups_of_not_isTriangle hl ht] using h.groups
  wellFormed := h.wellFormed
  current := h.current
  buffer := by simpa [lastBuffer, hl] using h.buffer
  lastDrawn := by simpa [Setting.lastDrawn, hl, ht] using h.lastDrawn

lemma Follows.load {l : VertexLoad} (h : Follows s past m) (hm : m.load s l = .ok m') :
    Follows s (.load l :: past) m' := by
  obtain ⟨vertices, hv, hs, rfl⟩ := load_cases hm
  obtain ⟨hn, hv⟩ := loadedVertices_spec hv
  have hd : s.drawnBy past (.load l) = [] := rfl
  have ho : s.opens past (.load l) := rfl
  have hc := Batch.current_ofLoad m.cache l.buffer m.state hs
  exact {
    state := h.state
    cache slot := by
      rw [m.cache.get?_load _ _ _ hs, Setting.written, hn, h.cache]
      dsimp only [Command.load?]
      split_ifs with hr
      · exact hv _ (by omega)
      · rfl
    drawn := by
      simpa [Setting.drawn, hd, Batch.drawn, Batch.ofLoad] using h.drawn
    defined := by simpa [Setting.drawn, hd] using h.defined
    groups := by
      rw [Setting.groups, if_pos ho, hd]
      refine .cons ?_ h.groups
      exact ⟨rfl, rfl, by simp, fun _ => ⟨l, past, rfl, h.state⟩⟩
    wellFormed := List.forall_mem_cons.2 ⟨hc.toWellFormed, h.wellFormed⟩
    current := by simpa using hc
    buffer := rfl
    lastDrawn := rfl }

lemma Follows.drawn_of_addTriangles (h : Follows s past m) {b b' : Batch}
    (hc : b.Current m.cache) (hs : b.state = m.state)
    (hb : b.addTriangles m.cache c.triangles = .ok b') :
    b'.drawn = b.drawn ++ s.drawnBy past c ∧
      ∀ d ∈ s.drawnBy past c, ∀ a ∈ d.corners.toList, a.isSome := by
  have ha (slot : UInt32) : m.cache.attributes? slot = (s.written slot past).map .ofVertex := by
    rw [Cache.attributes?, h.cache]
  obtain ⟨-, hd, ht⟩ := Batch.current_of_addTriangles hc hb
  constructor
  · rw [ht, hs, h.state]
    simp only [Setting.drawnBy, Vec3.map, ha]
  · intro d hm
    obtain ⟨t, htm, rfl⟩ := List.mem_map.1 hm
    have hd := hd t htm
    simpa [Vec3.toList, Vec3.map, h.cache] using hd

lemma Follows.extend (h : Follows s past m) (ht : c.isTriangle) {b b' : Batch} {older : List Batch}
    (opening : History) {gs : List Group} (hc : b.Current m.cache) (hs : b.state = m.state)
    (hb : b.addTriangles m.cache c.triangles = .ok b')
    (hd : older.reverse.flatMap Batch.drawn ++ b.drawn = s.drawn past)
    (hg : s.groups (c :: past) = ⟨opening, b.drawn ++ s.drawnBy past c⟩ :: gs)
    (hf : List.Forall₂ (Batch.Fits s) older gs) (hw : ∀ b ∈ older, b.WellFormed)
    (hn : lastBuffer past = some b.name) (ho : lastBuffer opening = some b.name) :
    Follows s (c :: past) { m with newest := b' :: older } := by
  have hl : c.load? = none := Command.load?_of_isTriangle ht
  have he := Batch.extends_of_addTriangles hb
  obtain ⟨hd', hv⟩ := h.drawn_of_addTriangles hc hs hb
  have hc' := (Batch.current_of_addTriangles hc hb).1
  have hne : b'.triangles ≠ [] := by
    intro hn
    have hnil : b'.drawn = [] := by simp [Batch.drawn, hn]
    rw [hd', List.append_eq_nil_iff] at hnil
    exact Setting.drawnBy_ne_nil ht hnil.2
  have hs' : b'.state = s.live past := he.state.trans (hs.trans h.state)
  exact {
    state := h.state.trans (Setting.live_of_isTriangle ht).symm
    cache slot := by simpa [Setting.written, hl] using h.cache slot
    drawn := by simp [Setting.drawn, hd', ← hd]
    defined := by
      rw [Setting.drawn, List.forall_mem_append]
      exact ⟨h.defined, hv⟩
    groups := by
      rw [hg]
      refine .cons ⟨ho.trans (congrArg some he.name.symm), hd', ?_, fun hn => absurd hn hne⟩ hf
      rw [← hd']
      intro d hm
      obtain ⟨t, -, rfl⟩ := List.mem_map.1 hm
      rfl
    wellFormed := List.forall_mem_cons.2 ⟨hc'.toWellFormed, hw⟩
    current := by simpa using hc'
    buffer := by simpa [lastBuffer, hl, he.name] using hn
    lastDrawn := by simp [Setting.lastDrawn, hl, ht, hne, hs'] }

lemma Follows.draw {list : String} {line : Nat} (h : Follows s past m) (ht : c.isTriangle)
    (hm : m.draw list line c.triangles = .ok m') : Follows s (c :: past) m' := by
  obtain ⟨b, older, b', hb, hm⟩ := draw_cases hm
  have hl : c.load? = none := Command.load?_of_isTriangle ht
  have hc : b.Current m.cache := h.current b (by simp [hb])
  have hn : lastBuffer past = some b.name := by simp [h.buffer, hb]
  have hs : s.lastDrawn past = if b.triangles = [] then none else some b.state := by
    simp [h.lastDrawn, hb]
  have hd : older.reverse.flatMap Batch.drawn ++ b.drawn = s.drawn past := by
    simp [← h.drawn, hb]
  have hw := h.wellFormed
  have hf := h.groups
  rw [hb] at hw hf
  obtain ⟨hs', hb', rfl⟩ | ⟨hs', ht', hb', rfl⟩ := hm
  -- The newest batch takes the triangles: nothing was drawn in another state since the load.
  · have ho : s.opens past c = false := by
      obtain hs' | ht' := hs'
      · by_cases hb : b.triangles = [] <;>
          simp [Setting.opens, Setting.changesAt, hl, hs, hb, hs', h.state]
      · simp [Setting.opens, Setting.changesAt, hl, hs, ht']
    have hd' : Batch.drawn { b with state := m.state } = b.drawn := by
      obtain hs' | ht' := hs'
      · rw [← hs']
      · simp [Batch.drawn, ht']
    obtain ⟨g, gs, hg, hf, hgs⟩ := List.forall₂_cons_left_iff.1 hf
    refine h.extend ht g.opening (hc.withState m.state) rfl hb' (by rw [hd', hd]) ?_ hf
      (List.forall_mem_cons.1 hw).2 hn hg.name
    rw [hd', hg.drawn]
    exact Setting.groups_of_not_opens ho hgs
  -- The batch was drawn in another state, so the command opens a group for the copy.
  · have ho : s.opens past c := by
      simp [Setting.opens, Setting.changesAt, hs, ht, ht', ← h.state, hs']
    refine h.extend ht (c :: past) (hc.restart m.state) rfl hb' ?_ ?_ hf hw hn ?_
    · simpa [Batch.restart, Batch.drawn] using hd
    · simp [Setting.groups, ho, Batch.restart, Batch.drawn]
    · simpa [lastBuffer, hl, Batch.restart] using hn

lemma Follows.step {p : Placed} (h : Follows s past m) (hm : m.step s p = .ok m') :
    Follows s (p.command :: past) m' := by
  obtain ⟨l, hl, hm⟩ | ⟨ht, hm⟩ | ⟨ht, hl, state, log, hs, rfl⟩ := step_cases hm
  · exact hl ▸ h.load hm
  · exact h.draw ht hm
  · exact h.apply hl ht hs

end Machine

variable {s : Setting} {root : String} {batches : List Batch}

lemma follows_of_interpret (h : (interpret s root).1 = .ok batches) :
    (s.trace root).fault = none ∧
      ∃ m, m.batches = batches ∧ Machine.Follows s (s.trace root).past m := by
  obtain ⟨m, hm, hb⟩ := ok_of_interpretWith h
  exact ⟨(ok_of_play hm).1, m, hb,
    play_induction Machine.Follows.step (Machine.follows_initial s) hm⟩

def Setting.relay : Setting where
  script
    | "root" => .ok <| List.map (.ok ∘ some)
        [.load ⟨"buffer", 0, 3, 0⟩, .environment ⟨1, 0, 0, 0⟩, .triangle ⟨0, 1, 2⟩, .call "child",
          .triangle ⟨0, 1, 2⟩, .twoTriangles ⟨2, 1, 0⟩ ⟨0, 3, 1⟩]
    | "child" => .ok <| List.map (.ok ∘ some)
        [.environment ⟨2, 0, 0, 0⟩, .environment ⟨1, 0, 0, 0⟩, .triangle ⟨2, 1, 0⟩, .jump "tail"]
    | "tail" => .ok <| List.map (.ok ∘ some)
        [.load ⟨"buffer", 1, 3, 1⟩, .environment ⟨3, 0, 0, 0⟩, .triangle ⟨0, 1, 3⟩,
          .environment ⟨1, 0, 0, 0⟩, .finish, .load ⟨"buffer", 1, 3, 1⟩]
    | name => .error (.missingList name)
  vertices := .ofList
    [("buffer", [0, 1, 2, 3].map fun x => ⟨⟨x, 0, 0⟩, 0, ⟨0, 0⟩, ⟨0, 0, 0, 0⟩⟩)]
  lights := ∅
  options := {}

theorem drawn_interpret (h : (interpret s root).1 = .ok batches) :
    (s.trace root).fault = none ∧
      batches.flatMap Batch.drawn = s.drawn (s.trace root).past ∧
      ∀ d ∈ s.drawn (s.trace root).past, ∀ a ∈ d.corners.toList, a.isSome := by
  obtain ⟨hf, m, rfl, hm⟩ := follows_of_interpret h
  exact ⟨hf, hm.drawn, hm.defined⟩

theorem drawn_interpret_relay : ∃ batches,
    (interpret .relay "root").1 = .ok batches ∧ batches.length = 3 ∧
      batches.flatMap Batch.drawn = Setting.relay.drawn (Setting.relay.trace "root").past := by
  have three : (interpret .relay "root").1.toOption.map (·.length) = some 3 := by decide
  obtain ⟨batches, hb, hn⟩ := toOption_map_eq_some_iff.1 three
  exact ⟨batches, hb, hn, (drawn_interpret hb).2.1⟩

theorem interpret_fits_groups (h : (interpret s root).1 = .ok batches) :
    (s.trace root).fault = none ∧
      batches.length = loads (s.trace root).past + s.changes (s.trace root).past ∧
      List.Forall₂ (Batch.Fits s) batches (s.groups (s.trace root).past).reverse ∧
      ∀ (past mid : History) (c d : Command), (∀ e ∈ mid, e.isQuiet) →
        d.load?.isSome ∨ d.isTriangle ∧ s.live (mid ++ d :: past) = s.live past →
          s.opens (mid ++ d :: past) c = c.load?.isSome := by
  obtain ⟨hf, m, rfl, hm⟩ := follows_of_interpret h
  have hg : List.Forall₂ (Batch.Fits s) m.batches (s.groups (s.trace root).past).reverse :=
    List.forall₂_reverse_iff.2 hm.groups
  refine ⟨hf, ?_, hg, ?_⟩
  · rw [hg.length_eq, List.length_reverse, Setting.length_groups]
  · rintro past mid c d hq (hl | ⟨ht, hs⟩)
    · exact Setting.opens_after_load hq hl
    · exact Setting.opens_after_undone hq ht hs

theorem interpret_fits_groups_relay : ∃ batches,
    (interpret .relay "root").1 = .ok batches ∧
      batches.length = 2 + 1 ∧ loads (Setting.relay.trace "root").past = 2 ∧
      Setting.relay.changes (Setting.relay.trace "root").past = 1 ∧
      List.Forall₂ (Batch.Fits .relay) batches
        (Setting.relay.groups (Setting.relay.trace "root").past).reverse := by
  obtain ⟨batches, hb⟩ : ∃ batches, (interpret .relay "root").1 = .ok batches := ⟨_, rfl⟩
  have hl : loads (Setting.relay.trace "root").past = 2 := by decide
  have hc : Setting.relay.changes (Setting.relay.trace "root").past = 1 := by decide
  obtain ⟨-, hn, hg, -⟩ := interpret_fits_groups hb
  exact ⟨batches, hb, by rw [hn, hl, hc], hl, hc, hg⟩

end SceneDraw.DisplayList
