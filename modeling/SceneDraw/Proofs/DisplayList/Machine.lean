import SceneDraw.DisplayList.Machine
import SceneDraw.Proofs.DisplayList.Batch

namespace SceneDraw.DisplayList

def Command.load? : Command → Option VertexLoad
  | load l => some l
  | _ => none

lemma Command.load?_of_isTriangle {c : Command} (h : c.isTriangle) : c.load? = none := by
  cases c <;> simp [load?, isTriangle, triangles] at h ⊢

structure Placed where
  list : String
  line : Nat
  command : Command

def Machine.step (s : Setting) (m : Machine) (c : Placed) : Except Error Machine :=
  if c.command.isTriangle then m.draw c.list c.line c.command.triangles else m.exec s c.command

namespace Machine

variable {s : Setting} {m m' : Machine} {list : String} {line : Nat} {ts : List Triangle}

lemma ok_of_extend {b : Batch} {older : List Batch} (hb : m.newest = b :: older)
    (h : m.extend ts = .ok m') :
    ∃ b', b.addTriangles m.cache ts = .ok b' ∧ m' = { m with newest := b' :: older } := by
  rw [extend, hb] at h
  obtain ⟨b', hb', h⟩ := ok_of_bind h
  exact ⟨b', hb', (Except.ok.inj h).symm⟩

lemma draw_cases (h : m.draw list line ts = .ok m') :
    ∃ b older b', m.newest = b :: older ∧
      ((b.state = m.state ∨ b.triangles = []) ∧
          Batch.addTriangles { b with state := m.state } m.cache ts = .ok b' ∧
          m' = { m with newest := b' :: older } ∨
        b.state ≠ m.state ∧ b.triangles ≠ [] ∧
          (b.restart m.state).addTriangles m.cache ts = .ok b' ∧
          m' = { m with newest := b' :: b :: older }) := by
  rw [draw] at h
  cases hb : m.newest with
  | nil =>
    rw [hb] at h
    cases h
  | cons b older =>
    simp only [hb] at h
    split_ifs at h with hs ht
    · obtain ⟨b', hb', rfl⟩ := ok_of_extend hb h
      exact ⟨b, older, b', rfl, .inl ⟨.inl hs, hs ▸ hb', rfl⟩⟩
    · obtain ⟨b', hb', rfl⟩ := ok_of_extend rfl h
      refine ⟨b, older, b', rfl, .inl ⟨.inr ht, ?_, rfl⟩⟩
      rwa [Batch.restart, ← ht] at hb'
    · obtain ⟨b', hb', rfl⟩ := ok_of_extend rfl h
      exact ⟨b, older, b', rfl, .inr ⟨hs, ht, hb', rfl⟩⟩

lemma draw_of_settled (h : m.settled) : m.draw list line ts = m.extend ts := by
  rw [settled] at h
  rw [draw]
  cases hb : m.newest with
  | nil => simp [hb] at h
  | cons b older =>
    rw [hb] at h
    simp only [if_pos (of_decide_eq_true h)]

lemma settled_of_draw (h : m.draw list line ts = .ok m') : m'.settled := by
  obtain ⟨b, older, b', hb, ⟨-, hd, rfl⟩ | ⟨-, -, hd, rfl⟩⟩ := draw_cases h
  · simpa [settled] using (Batch.extends_of_addTriangles hd).state
  · simpa [settled, Batch.restart] using (Batch.extends_of_addTriangles hd).state

lemma loadedVertices_spec {l : VertexLoad} {vertices : List Vertex}
    (h : s.loadedVertices l = .ok vertices) :
    vertices.length = l.count.toNat ∧ ∀ i < l.count.toNat,
      vertices[i]? = (s.vertices.find? l.buffer).bind (·[l.offset.toNat + i]?) := by
  rw [Setting.loadedVertices] at h
  split at h
  · cases h
  · rename_i buffer hb
    dsimp only at h
    split_ifs at h with hs
    obtain rfl := Except.ok.inj h
    refine ⟨by simp; omega, fun i hi => ?_⟩
    simp [hb, List.getElem?_take_of_lt hi]

lemma load_cases {l : VertexLoad} (h : m.load s l = .ok m') :
    ∃ vertices, s.loadedVertices l = .ok vertices ∧ l.start.toNat + vertices.length ≤ cacheSize ∧
      m' = { m with
        cache := m.cache.load l.start.toNat vertices
        newest := .ofLoad l.buffer m.state l.start vertices :: m.newest } := by
  obtain ⟨vertices, hv, h⟩ := ok_of_bind h
  dsimp only at h
  split_ifs at h with hs
  exact ⟨vertices, hv, hs, (Except.ok.inj h).symm⟩

lemma step_cases {c : Placed} (h : m.step s c = .ok m') :
    (∃ l, c.command = .load l ∧ m.load s l = .ok m') ∨
      (c.command.isTriangle ∧ m.draw c.list c.line c.command.triangles = .ok m') ∨
      (c.command.isTriangle = false ∧ c.command.load? = none ∧
        ∃ state log, s.apply m.state c.command = .ok (state, log) ∧
          m' = { m with state, log := m.log ++ log }) := by
  obtain ⟨list, line, c⟩ := c
  rw [step] at h
  split_ifs at h with ht
  · exact .inr (.inl ⟨ht, h⟩)
  · have ht : c.isTriangle = false := by simpa using ht
    cases c with
    | load l => exact .inl ⟨l, rfl, h⟩
    | _ =>
      obtain ⟨⟨state, log⟩, hs, h⟩ := ok_of_bind h
      exact .inr (.inr ⟨ht, rfl, state, log, hs, (Except.ok.inj h).symm⟩)

end Machine

end SceneDraw.DisplayList
