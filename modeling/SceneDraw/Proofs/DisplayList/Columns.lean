import SceneDraw.Proofs.DisplayList.Batch

/-! A batch by columns: a list for each attribute of its vertices, and one for all of its indices.
What is done to corners and triangles is to push onto these lists, one element at a time. -/

namespace SceneDraw.DisplayList

structure Columns where
  positions : List (Vec3 Float32)
  uvs : List (Vec2 Float32)
  colors : List (Vec4 UInt8)
  slots : List UInt32
  indices : List Nat

namespace Columns

def pushVertex (c : Columns) (slot : UInt32) (v : Vertex) : Columns :=
  { c with
    positions := c.positions ++ [v.position]
    uvs := c.uvs ++ [v.textureCoordinates]
    colors := c.colors ++ [v.cn]
    slots := c.slots ++ [slot] }

def pushVertices (c : Columns) (start : UInt32) : List Vertex → Columns
  | [] => c
  | v :: vs => (c.pushVertex start v).pushVertices (start + 1) vs

def pushIndex (cache : Cache) (c : Columns) (slot : UInt32) : Except Error Columns :=
  match c.slots.findIdx? (· == slot) with
  | some i => .ok { c with indices := c.indices ++ [i] }
  | none =>
    match cache.get? slot with
    | some v =>
      let c := c.pushVertex slot v
      .ok { c with indices := c.indices ++ [c.slots.length - 1] }
    | none => .error (.invalidIndex slot (.ofNat cache.loaded))

def pushTriangles (cache : Cache) (c : Columns) (ts : List Triangle) : Except Error Columns :=
  ts.foldlM (fun c t => t.toList.foldlM (pushIndex cache) c) c

end Columns

namespace Batch

def columns (b : Batch) : Columns := ⟨b.positions, b.uvs, b.colors, b.slots, b.indices⟩

lemma columns_addCorner (b : Batch) (slot : UInt32) (v : Vertex) :
    columns { b with corners := b.corners ++ [⟨slot, v⟩] } = b.columns.pushVertex slot v := by
  simp [columns, Columns.pushVertex, positions, uvs, colors, slots, indices]

lemma columns_addCorners (b : Batch) (start : UInt32) (vs : List Vertex) :
    columns { b with corners := b.corners ++ cornersFrom start vs } =
      b.columns.pushVertices start vs := by
  induction vs generalizing b start with
  | nil => rw [cornersFrom, List.append_nil, Columns.pushVertices]
  | cons v vs ih =>
    rw [Columns.pushVertices, ← columns_addCorner, ← ih, cornersFrom]
    simp

theorem columns_ofLoad (name : String) (state : RenderState) (start : UInt32) (vs : List Vertex) :
    (ofLoad name state start vs).columns = Columns.pushVertices ⟨[], [], [], [], []⟩ start vs :=
  columns_addCorners ⟨name, state, [], []⟩ start vs

theorem columns_restart (b : Batch) (state : RenderState) :
    (b.restart state).columns = { b.columns with indices := [] } := rfl

variable (cache : Cache)

lemma findIdx?_slots (b : Batch) (slot : UInt32) :
    b.slots.findIdx? (· == slot) = b.corners.findIdx? (·.slot == slot) := by
  rw [slots, List.findIdx?_map]
  rfl

/-- While a triangle is added, its indices are ahead of the triangles of the batch. -/
lemma pushIndex_place (b : Batch) (is : List Nat) (slot : UInt32) :
    { b.columns with indices := is }.pushIndex cache slot =
      (fun (b', i) => { b'.columns with indices := is ++ [i] }) <$> b.place cache slot := by
  change Columns.pushIndex cache ⟨_, _, _, b.slots, is⟩ slot = _
  rw [Columns.pushIndex, place, findIdx?_slots]
  cases b.corners.findIdx? (·.slot == slot) with
  | some i => rfl
  | none =>
    cases cache.get? slot with
    | none => rfl
    | some v =>
      change _ = Except.ok { columns { b with corners := b.corners ++ [⟨slot, v⟩] } with
        indices := is ++ [b.corners.length] }
      rw [columns_addCorner]
      simp [Columns.pushVertex, columns, slots]

lemma columns_addTriangle (b : Batch) (t : Triangle) :
    columns <$> b.addTriangle cache t = t.toList.foldlM (Columns.pushIndex cache) b.columns := by
  change _ = { b.columns with indices := b.indices }.pushIndex cache t.x >>= fun c =>
    c.pushIndex cache t.y >>= fun c => c.pushIndex cache t.z >>= pure
  rw [addTriangle, pushIndex_place]
  cases h₁ : b.place cache t.x with
  | error e => rfl
  | ok p₁ =>
    obtain ⟨b₁, i⟩ := p₁
    change columns <$> (b₁.place cache t.y >>= _) =
      { b₁.columns with indices := b.indices ++ [i] }.pushIndex cache t.y >>= _
    rw [pushIndex_place]
    cases h₂ : b₁.place cache t.y with
    | error e => rfl
    | ok p₂ =>
      obtain ⟨b₂, j⟩ := p₂
      change columns <$> (b₂.place cache t.z >>= _) =
        { b₂.columns with indices := b.indices ++ [i] ++ [j] }.pushIndex cache t.z >>= _
      rw [pushIndex_place]
      cases h₃ : b₂.place cache t.z with
      | error e => rfl
      | ok p₃ =>
        obtain ⟨b₃, k⟩ := p₃
        have kept : b₃.triangles = b.triangles := (extends_of_place h₃).2.trans
          ((extends_of_place h₂).2.trans (extends_of_place h₁).2)
        change Except.ok (columns { b₃ with triangles := b₃.triangles ++ [⟨i, j, k⟩] }) =
          Except.ok { b₃.columns with indices := b.indices ++ [i] ++ [j] ++ [k] }
        rw [kept]
        simp [columns, indices, positions, uvs, colors, slots, Vec3.toList]

theorem columns_addTriangles (b : Batch) (ts : List Triangle) :
    columns <$> b.addTriangles cache ts = b.columns.pushTriangles cache ts := by
  induction ts generalizing b with
  | nil => rfl
  | cons t ts ih =>
    rw [addTriangles, Columns.pushTriangles, List.foldlM_cons, List.foldlM_cons,
      ← columns_addTriangle]
    cases b.addTriangle cache t with
    | error e => rfl
    | ok b' => exact ih b'

end Batch

end SceneDraw.DisplayList
