import SceneDraw.DisplayList.Command
import SceneDraw.DisplayList.Error
import SceneDraw.Geometry.Vertex

namespace SceneDraw.DisplayList

abbrev cacheSize : Nat := 32

structure Cache where
  slots : Vector (Option Vertex) cacheSize
  deriving DecidableEq

namespace Cache

def empty : Cache := ⟨.replicate cacheSize none⟩

def get? (c : Cache) (slot : UInt32) : Option Vertex := c.slots[slot.toNat]?.join

def loaded (c : Cache) : Nat := c.slots.toList.countP (·.isSome)

def load (c : Cache) (start : Nat) (vertices : List Vertex) : Cache :=
  ⟨.ofFn fun i =>
    if start ≤ i then vertices[i.val - start]?.or c.slots[i] else c.slots[i]⟩

end Cache

structure Corner where
  slot : UInt32
  vertex : Vertex
  deriving DecidableEq, Repr

/-- `triangles` holds positions in `corners`. -/
structure Batch where
  name : String
  state : RenderState
  corners : List Corner
  triangles : List (Vec3 Nat)
  deriving DecidableEq

namespace Batch

def cornersFrom (start : UInt32) : List Vertex → List Corner
  | [] => []
  | v :: vs => ⟨start, v⟩ :: cornersFrom (start + 1) vs

def ofLoad (name : String) (state : RenderState) (start : UInt32) (vertices : List Vertex) :
    Batch :=
  ⟨name, state, cornersFrom start vertices, []⟩

def restart (b : Batch) (state : RenderState) : Batch := { b with state, triangles := [] }

def place (b : Batch) (cache : Cache) (slot : UInt32) : Except Error (Batch × Nat) :=
  match b.corners.findIdx? (·.slot == slot) with
  | some i => .ok (b, i)
  | none =>
    match cache.get? slot with
    | some v => .ok ({ b with corners := b.corners ++ [⟨slot, v⟩] }, b.corners.length)
    | none => .error (.invalidIndex slot (.ofNat cache.loaded))

def addTriangle (b : Batch) (cache : Cache) (t : Triangle) : Except Error Batch := do
  let (b, i) ← b.place cache t.x
  let (b, j) ← b.place cache t.y
  let (b, k) ← b.place cache t.z
  return { b with triangles := b.triangles ++ [⟨i, j, k⟩] }

def addTriangles (b : Batch) (cache : Cache) (ts : List Triangle) : Except Error Batch :=
  ts.foldlM (fun b t => b.addTriangle cache t) b

variable (b : Batch)

def positions : List (Vec3 Float32) := b.corners.map (·.vertex.position)

def uvs : List (Vec2 Float32) := b.corners.map (·.vertex.textureCoordinates)

def colors : List (Vec4 UInt8) := b.corners.map (·.vertex.cn)

def slots : List UInt32 := b.corners.map (·.slot)

def indices : List Nat := b.triangles.flatMap Vec3.toList

def lit : Bool := b.state.lighting

def vertexCount : Nat := b.corners.length

def triangleCount : Nat := b.triangles.length

end Batch

end SceneDraw.DisplayList
