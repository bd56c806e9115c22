import SceneDraw.Geometry.Matrix
import SceneDraw.Layout.Command

namespace SceneDraw.Layout

inductive Side
  | near
  | far
  deriving DecidableEq, Repr

structure Node where
  transform : Matrix
  zBuffer : Bool
  billboard : Bool
  side : Option Side
  /-- The product of all scale factors, which billboards undo. -/
  scale : Float32
  caseNumber : Option Nat
  deriving DecidableEq

structure Placement where
  list : String
  layer : DrawLayer
  transform : Matrix
  zBuffer : Bool
  billboard : Bool
  deriving DecidableEq

namespace Node

def root : Node := ⟨.identity, true, false, none, 1, none⟩

variable (n : Node)

def visible : Bool := n.side != some .far

def translate (t : Vec3 Float32) : Node := { n with transform := n.transform * .translate t }

def rotate (r : Vec3 Float32) : Node := { n with transform := .rotateZXY r * n.transform }

def translateRotate (t r : Vec3 Float32) : Node :=
  { n with transform := .translate t * .rotateZXY r * n.transform }

def scaleBy (s : Float32) : Node :=
  { n with transform := n.transform * .scale s, scale := n.scale * s }

def drawTransform : Matrix :=
  if n.billboard && !(n.scale == 0) then n.transform * .scale (1 / n.scale) else n.transform

def move : Motion → Node
  | .billboard t => { n with billboard := true }.translate t
  | .scale factor => n.scaleBy (factor.toFloat32 / 65536)
  | .translateRotate t r => n.translateRotate t r
  | .translate t => n.translate t
  | .rotate r => n.rotate r

end Node

end SceneDraw.Layout
