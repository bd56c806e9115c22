import SceneDraw.Geometry.Matrix

namespace SceneDraw.Layout

/--
`index` holds a pair for each channel: the number of its samples and the position of the first in
`values`. Three channels translate the root; each joint has three more for its rotation.
-/
structure Animation where
  flags : UInt16 := 0
  index : List UInt16 := []
  values : List Int16 := []
  deriving DecidableEq, Repr

inductive JointType
  | full
  | vertical
  | lateral
  | none
  deriving DecidableEq, Repr

def JointType.axes : JointType → Vec3 Bool
  | full => ⟨true, true, true⟩
  | vertical => ⟨false, true, false⟩
  | lateral => ⟨true, false, true⟩
  | none => ⟨false, false, false⟩

namespace Animation

variable (a : Animation)

def jointType : JointType :=
  if a.flags &&& 0x08 != 0 then .vertical
  else if a.flags &&& 0x10 != 0 then .lateral
  else if a.flags &&& 0x40 != 0 then .none
  else .full

def jointCount : Nat := a.index.length / 6 - 1

def samplePosition (count start : UInt16) (frame : Int32) : Int :=
  if frame.toInt < count.toNat then start.toNat + frame.toInt else start.toNat + count.toNat - 1

def sample (frame : Int32) (i : Nat) : Int16 :=
  match a.index[i]?, a.index[i + 1]? with
  | some count, some start =>
    let position := samplePosition count start frame
    if 0 < count ∧ 0 ≤ position then a.values[position.toNat]?.getD 0 else 0
  | _, _ => 0

end Animation

def degrees (angle : Int16) : Float32 := angle.toFloat32 * 180 / 32768

structure Playhead where
  animation : Animation
  frame : Int32
  cursor : Nat := 0
  deriving DecidableEq, Repr

namespace Playhead

def skip (p : Playhead) : Playhead := { p with cursor := p.cursor + 2 }

def read (p : Playhead) : Int16 × Playhead := (p.animation.sample p.frame p.cursor, p.skip)

def drive (p : Playhead) (enabled : Bool) (x : Float32) : Float32 × Playhead :=
  if enabled then
    let (n, p) := p.read
    (x + n.toFloat32, p)
  else (x, p.skip)

def driveRoot (p : Playhead) (t : Vec3 Float32) : Vec3 Float32 × Playhead :=
  let axes := p.animation.jointType.axes
  let (x, p) := { p with cursor := 0 }.drive axes.x t.x
  let (y, p) := p.drive axes.y t.y
  let (z, p) := p.drive axes.z t.z
  (⟨x, y, z⟩, p)

def readRotation (p : Playhead) : Vec3 Float32 × Playhead :=
  let (x, p) := p.read
  let (y, p) := p.read
  let (z, p) := p.read
  ((⟨x, y, z⟩ : Vec3 Int16).map degrees, p)

def joint (p : Playhead) (offset : Vec3 Float32) (n : Nat) : Matrix × Playhead :=
  let (t, p) := if n = 0 then p.driveRoot offset else (offset, p)
  let (r, p) := p.readRotation
  (.translate t * .rotateXYZ r, p)

end Playhead

end SceneDraw.Layout
