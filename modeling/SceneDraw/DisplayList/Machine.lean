import SceneDraw.DisplayList.Batch
import SceneDraw.DisplayList.Decode
import SceneDraw.Log
import SceneDraw.Render.Tables

/-! The machine that display list commands drive, and the effect of each command on it. -/

namespace SceneDraw.DisplayList

/--
`maxDepth` limits the nesting of calls, and the jumps within one called list. The policy is about
undefined lights.
-/
structure Options where
  maxDepth : Nat := 64
  policy : MissingPolicy := .skip
  deriving DecidableEq, Repr

abbrev Line := Except ParseError (Option Command)

structure Setting where
  script : String → Except Error (List Line)
  vertices : VertexTable
  lights : LightTable
  options : Options

def scripts (lookup : Lookup) (name : String) : Except Error (List Line) :=
  match lookup .displayList name with
  | .ok lines => .ok (lines.map decodeLine)
  | .error e => .error (.ofLookup name e)

structure Machine where
  state : RenderState := .initial
  cache : Cache := .empty
  newest : List Batch := []
  log : Log := []

namespace Machine

def batches (m : Machine) : List Batch := m.newest.reverse

end Machine

abbrev Outcome := Except (Stopped Error) Machine

def Machine.stop {α : Type} (m : Machine) (e : Error) : Except (Stopped Error) α := .error ⟨e, m.log⟩

def Machine.lift {α : Type} (m : Machine) : Except Error α → Except (Stopped Error) α
  | .ok a => .ok a
  | .error e => m.stop e

namespace Setting

def warning (text : String) : Log := [⟨.warn, .displayList, text⟩]

def missingLight (s : Setting) (name : String) (state : RenderState) :
    Except Error (RenderState × Log) :=
  match s.options.policy with
  | .skip => .ok (state, warning s!"skipping undefined light {name}")
  | .fail => .error (.missingLight name)

def apply (s : Setting) (state : RenderState) : Command → Except Error (RenderState × Log)
  | .setMode flags => .ok (state.setFlags flags, [])
  | .clearMode flags => .ok (state.clearFlags flags, [])
  | .texture scale enable => .ok (state.setTextureScale scale enable, [])
  | .lightPair name =>
    match s.lights.find? name with
    | none => s.missingLight name state
    | some light =>
      match state.setLightPair? light with
      | some state => .ok (state, [])
      | none => .ok (state, warning s!"{name} has no directional light")
  | .light name part slot =>
    match s.lights.find? name with
    | none => s.missingLight name state
    | some light =>
      match light.part? part with
      | some value => .ok (state.setLight slot value, [])
      | none => .ok (state, warning s!"{name} has no light {part.display}")
  | .combine mode => .ok ({ state with combine := some mode }, [])
  | .tile tile => .ok ({ state with tile := some tile }, [])
  | .textureImage _ _ _ texture => .ok ({ state with texture := some texture }, [])
  | .textureBlock texture _ _ tile =>
    .ok ({ state with texture := some texture, tile := some tile }, [])
  | .environment color => .ok ({ state with environment := some color }, [])
  | _ => .ok (state, [])

def loadedVertices (s : Setting) (l : VertexLoad) : Except Error (List Vertex) :=
  match s.vertices.find? l.buffer with
  | none => .error (.missingBuffer l.buffer)
  | some vertices =>
    let stop := l.offset.toNat + l.count.toNat
    if stop ≤ vertices.length then .ok ((vertices.drop l.offset.toNat).take l.count.toNat)
    else .error (.invalidIndex (.ofNat (stop - 1)) (.ofNat vertices.length))

end Setting

namespace Machine

def load (s : Setting) (m : Machine) (l : VertexLoad) : Except Error Machine := do
  let vertices ← s.loadedVertices l
  let stop := l.start.toNat + vertices.length
  if stop ≤ cacheSize then
    return { m with
      cache := m.cache.load l.start.toNat vertices
      newest := .ofLoad l.buffer m.state l.start vertices :: m.newest }
  else throw (.invalidIndex (.ofNat (stop - 1)) (.ofNat cacheSize))

def extend (m : Machine) (ts : List Triangle) : Except Error Machine :=
  match m.newest with
  | [] => .ok m
  | b :: older => return { m with newest := (← b.addTriangles m.cache ts) :: older }

/--
Draws triangles in the live state: with the newest batch if that is its state, with the newest
batch put into the live state if nothing was drawn with it yet, and with a copy of it otherwise.
-/
def draw (m : Machine) (list : String) (line : Nat) (ts : List Triangle) : Except Error Machine :=
  match m.newest with
  | [] => .error (.noVertices list line)
  | b :: older =>
    if b.state = m.state then m.extend ts
    else if b.triangles = [] then { m with newest := b.restart m.state :: older }.extend ts
    else { m with newest := b.restart m.state :: m.newest }.extend ts

def settled (m : Machine) : Bool :=
  match m.newest with
  | [] => false
  | b :: _ => b.state = m.state

def exec (s : Setting) (m : Machine) : Command → Except Error Machine
  | .load l => m.load s l
  | c => do
    let (state, log) ← s.apply m.state c
    return { m with state, log := m.log ++ log }

end Machine

end SceneDraw.DisplayList
