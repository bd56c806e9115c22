import SceneDraw.Layout.Animation
import SceneDraw.Layout.Decode
import SceneDraw.Layout.Error
import SceneDraw.Layout.Node
import SceneDraw.Log

/-! Flattening a layout, with the layouts that it branches to, into placements. -/

namespace SceneDraw.Layout

structure Options where
  nullName : String := "NULL"
  inertSelectors : NameSet := .ofNames ["geo_switch_area"]
  /-- The root layouts in which closing a node goes back to the node below the one popped. -/
  asymmetricLayouts : NameSet := .ofNames ["bowser_geo"]
  maxDepth : Nat := 64
  frame : Int32 := 0
  policy : MissingPolicy := .skip
  deriving DecidableEq

abbrev Line := Except ParseError (Option Command)

structure Setting where
  script : String → Except Error (List Line)
  options : Options
  asymmetric : Bool

def scripts (lookup : Lookup) (name : String) : Except Error (List Line) :=
  match lookup .layout name with
  | .ok lines => .ok (lines.map decodeLine)
  | .error e => .error (.ofLookup name e)

structure Switch where
  expected : Nat := 0
  seen : Nat := 0
  deriving DecidableEq, Repr

namespace Switch

def active (s : Switch) : Bool := s.expected != 0

def isOpen (s : Switch) : Bool := s.expected == 0 || s.seen == 0

def advance (s : Switch) : Switch :=
  if s.active && s.seen + 1 < s.expected then { s with seen := s.seen + 1 } else {}

end Switch

structure Scope where
  node : Node
  stack : List Node
  switch : Switch := {}
  deriving DecidableEq

structure Walk where
  joint : Nat := 0
  playhead : Option Playhead
  placements : List Placement := []
  log : Log := []
  deriving DecidableEq

abbrev Outcome := Except (Stopped Error) Walk

def Walk.stop {α : Type} (w : Walk) (e : Error) : Except (Stopped Error) α := .error ⟨e, w.log⟩

def Walk.nextJoint (w : Walk) (offset : Vec3 Float32) : Matrix × Walk :=
  match w.playhead with
  | none => (.translate offset, { w with joint := w.joint + 1 })
  | some p =>
    let (m, p) := p.joint offset w.joint
    (m, { w with joint := w.joint + 1, playhead := some p })

namespace Scope

def enter (node : Node) : Scope := { node, stack := [node] }

def openNode (sc : Scope) : Scope := { sc with stack := sc.node :: sc.stack }

def closeNode (asymmetric : Bool) (sc : Scope) : Scope :=
  match sc.stack with
  | [] => sc
  | top :: stack =>
    if asymmetric then { sc with node := stack.head?.getD sc.node, stack }
    else { sc with node := top, stack }

def branchNode (sc : Scope) : Node :=
  if sc.switch.active then { sc.node with caseNumber := some sc.switch.seen } else sc.node

end Scope

namespace Setting

variable (s : Setting)

def isNull (name : String) : Bool := name == s.options.nullName

def place (w : Walk) (node : Node) (layer : DrawLayer) (list : String) (transform : Matrix) :
    Walk :=
  if s.isNull list || !node.visible then w
  else { w with
    placements := w.placements ++ [⟨list, layer, transform, node.zBuffer, node.billboard⟩] }

def perform (sc : Scope) (w : Walk) : Command → Scope × Walk
  | .inert _ | .branch .. => (sc, w)
  | .openNode => (sc.openNode, w)
  | .closeNode => (sc.closeNode s.asymmetric, w)
  | .zBuffer enable => ({ sc with node := { sc.node with zBuffer := enable } }, w)
  | .renderRange near _ =>
    ({ sc with node := { sc.node with side := some (if near < 0 then .near else .far) } }, w)
  | .switchCase count selector =>
    if count = 0 ∨ s.options.inertSelectors.contains selector then (sc, w)
    else ({ sc with switch := { expected := count.toNat } }, w)
  | .billboard => ({ sc with node := { sc.node with billboard := true } }, w)
  | .move motion layer list =>
    let node := sc.node.move motion
    ({ sc with node },
      match list with
      | some list => s.place w node layer list node.transform
      | none => w)
  | .animatedPart layer offset list =>
    if sc.node.visible then
      let (m, w) := w.nextJoint offset
      let node := { sc.node with transform := sc.node.transform * m }
      ({ sc with node }, s.place w node layer list node.transform)
    else (sc, w)
  | .displayList layer list => (sc, s.place w sc.node layer list sc.node.drawTransform)

def runLines (branch : String → Node → Walk → Outcome) (name : String) :
    Nat → List Line → Scope → Walk → Outcome
  | _, [], _, w => .ok w
  | line, .error e :: _, _, w => w.stop (.decode name line e)
  | line, .ok none :: rest, sc, w => runLines branch name (line + 1) rest sc w
  | line, .ok (some c) :: rest, sc, w =>
    if c.isCase && !sc.switch.isOpen then
      runLines branch name (line + 1) rest { sc with switch := sc.switch.advance } w
    else do
      let (sc, w) := s.perform sc w c
      let w ←
        match c with
        | .branch layout _ => if s.isNull layout then .ok w else branch layout sc.branchNode w
        | _ => .ok w
      let sc := if c.isCase then { sc with switch := sc.switch.advance } else sc
      runLines branch name (line + 1) rest sc w

def follow (enter : String → List Line → Node → Walk → Outcome) (layout : String) (node : Node)
    (w : Walk) : Outcome :=
  match s.script layout with
  | .ok script => enter layout script node w
  | .error (.missingLayout name) =>
    match s.options.policy with
    | .skip =>
      .ok { w with log := w.log ++ [⟨.warn, .layout, s!"skipping undefined geo layout {name}"⟩] }
    | .fail => w.stop (.missingLayout name)
  | .error e => w.stop e

/-- Runs a layout inside the layouts of `path`, with up to `room` layouts from it on downwards. -/
def runLayout : Nat → List String → String → List Line → Node → Walk → Outcome
  | 0, path, name, _, _, w => w.stop (if name ∈ path then .cycle name else .tooDeep name)
  | room + 1, path, name, script, node, w =>
    if name ∈ path then w.stop (.cycle name)
    else
      s.runLines (s.follow (runLayout room (name :: path))) name 0 script (.enter node) w

end Setting

def runRoot (s : Setting) (root : String) (playhead : Option Playhead) : Outcome :=
  let w : Walk := { playhead }
  match s.script root with
  | .ok script => s.runLayout s.options.maxDepth [] root script .root w
  | .error e => w.stop e

def interpret (lookup : Lookup) (animation : Option Animation) (options : Options) (root : String) :
    Except Error (List Placement) × Log :=
  let s : Setting := ⟨scripts lookup, options, options.asymmetricLayouts.contains root⟩
  match runRoot s root (animation.map fun animation => { animation, frame := options.frame }) with
  | .ok w =>
    let text :=
      s!"interpreted geo layout {root}: {w.placements.length} placements, {w.joint} joints"
    (.ok w.placements, w.log ++ [⟨.debug, .layout, text⟩])
  | .error e => (.error e.error, e.log)

end SceneDraw.Layout
