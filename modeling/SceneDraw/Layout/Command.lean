import SceneDraw.Call.Basic
import SceneDraw.Geometry.Vector

namespace SceneDraw.Layout

inductive DrawLayer
  | force
  | solid
  | solidDecal
  | solidInter
  | alpha
  | transparent
  | transparentDecal
  | transparentInter
  deriving DecidableEq, Repr

namespace DrawLayer

def all : List DrawLayer :=
  [force, solid, solidDecal, solidInter, alpha, transparent, transparentDecal, transparentInter]

def number (l : DrawLayer) : Nat := l.ctorIdx

def ofNumber? (n : Nat) : Option DrawLayer := all[n]?

def symbol : DrawLayer → String
  | force => "LAYER_FORCE"
  | solid => "LAYER_OPAQUE"
  | solidDecal => "LAYER_OPAQUE_DECAL"
  | solidInter => "LAYER_OPAQUE_INTER"
  | alpha => "LAYER_ALPHA"
  | transparent => "LAYER_TRANSPARENT"
  | transparentDecal => "LAYER_TRANSPARENT_DECAL"
  | transparentInter => "LAYER_TRANSPARENT_INTER"

def ofSymbol? (s : String) : Option DrawLayer := all.find? (·.symbol = s)

def label : DrawLayer → String
  | force => "Force"
  | solid => "Opaque"
  | solidDecal => "OpaqueDecal"
  | solidInter => "OpaqueInter"
  | alpha => "Alpha"
  | transparent => "Transparent"
  | transparentDecal => "TransparentDecal"
  | transparentInter => "TransparentInter"

theorem ofSymbol?_symbol (l : DrawLayer) : ofSymbol? l.symbol = some l := by cases l <;> rfl

theorem ofNumber?_number (l : DrawLayer) : ofNumber? l.number = some l := by cases l <;> rfl

end DrawLayer

inductive Motion
  | billboard (offset : Vec3 Float32)
  /-- The factor is in units of 1/65536. -/
  | scale (factor : Int32)
  | translateRotate (offset rotation : Vec3 Float32)
  | translate (offset : Vec3 Float32)
  | rotate (rotation : Vec3 Float32)
  deriving DecidableEq

inductive Command
  | inert (call : Call)
  | openNode
  | closeNode
  | zBuffer (enable : Bool)
  | renderRange (near far : Int32)
  | switchCase (count : UInt32) (selector : String)
  | branch (layout : String) (link : Bool)
  | billboard
  | move (motion : Motion) (layer : DrawLayer) (list : Option String)
  | animatedPart (layer : DrawLayer) (offset : Vec3 Float32) (list : String)
  | displayList (layer : DrawLayer) (list : String)
  deriving DecidableEq

def Command.isCase : Command → Bool
  | animatedPart .. | displayList .. | branch .. => true
  | move _ _ list => list.isSome
  | _ => false

end SceneDraw.Layout
