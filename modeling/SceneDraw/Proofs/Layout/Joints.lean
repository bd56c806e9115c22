import SceneDraw.Proofs.Layout.Moments

namespace SceneDraw.Layout

namespace Animation

variable (a : Animation) (frame : Int32)

def channel (n : Nat) : Int16 := a.sample frame (2 * n)

def rotation (joint : Nat) : Vec3 Float32 :=
  (⟨a.channel frame (3 + 3 * joint), a.channel frame (3 + 3 * joint + 1),
    a.channel frame (3 + 3 * joint + 2)⟩ : Vec3 Int16).map degrees

def driven (channel : Nat) (enabled : Bool) (x : Float32) : Float32 :=
  if enabled then x + (a.channel frame channel).toFloat32 else x

def rootOffset (t : Vec3 Float32) : Vec3 Float32 :=
  ⟨a.driven frame 0 a.jointType.axes.x t.x, a.driven frame 1 a.jointType.axes.y t.y,
    a.driven frame 2 a.jointType.axes.z t.z⟩

def jointMatrix (joint : Nat) (offset : Vec3 Float32) : Matrix :=
  .translate (if joint = 0 then a.rootOffset frame offset else offset) *
    .rotateXYZ (a.rotation frame joint)

end Animation

def Walk.Plays (a : Animation) (frame : Int32) (w : Walk) : Prop :=
  ∃ cursor, w.playhead = some ⟨a, frame, cursor⟩ ∧
    (w.joint ≠ 0 → cursor = 2 * (3 + 3 * w.joint))

section

variable {a : Animation} {frame : Int32}

lemma drive_eq (cursor : Nat) (n : Nat) (h : cursor = 2 * n) (enabled : Bool) (x : Float32) :
    (Playhead.mk a frame cursor).drive enabled x =
      (a.driven frame n enabled x, ⟨a, frame, cursor + 2⟩) := by
  subst h
  cases enabled <;> rfl

lemma driveRoot_eq (cursor : Nat) (t : Vec3 Float32) :
    (Playhead.mk a frame cursor).driveRoot t =
      (a.rootOffset frame t, ⟨a, frame, 2 * (3 + 3 * 0)⟩) := by
  simp only [Playhead.driveRoot, drive_eq 0 0 rfl, drive_eq 2 1 rfl, drive_eq 4 2 rfl]
  rfl

lemma readRotation_eq (joint : Nat) :
    (Playhead.mk a frame (2 * (3 + 3 * joint))).readRotation =
      (a.rotation frame joint, ⟨a, frame, 2 * (3 + 3 * (joint + 1))⟩) :=
  rfl

lemma joint_eq (cursor joint : Nat) (h : joint ≠ 0 → cursor = 2 * (3 + 3 * joint))
    (offset : Vec3 Float32) :
    (Playhead.mk a frame cursor).joint offset joint =
      (a.jointMatrix frame joint offset, ⟨a, frame, 2 * (3 + 3 * (joint + 1))⟩) := by
  rw [Playhead.joint, Animation.jointMatrix]
  split_ifs with hj
  · subst hj
    simp only [driveRoot_eq, readRotation_eq]
  · rw [h hj]
    simp only [readRotation_eq]

lemma Walk.Plays.nextJoint {w : Walk} (h : w.Plays a frame) (offset : Vec3 Float32) :
    (w.nextJoint offset).1 = a.jointMatrix frame w.joint offset ∧
      (w.nextJoint offset).2.Plays a frame := by
  obtain ⟨cursor, hp, hc⟩ := h
  simp only [Walk.nextJoint, hp, joint_eq cursor w.joint hc]
  exact ⟨trivial, _, rfl, fun _ => rfl⟩

end

structure Part where
  layer : DrawLayer
  offset : Vec3 Float32
  list : String
  before : Node
  after : Node
  placed : List Placement

namespace Setting

variable (s : Setting)

def part? (m : Moment) : Option Part :=
  match m.command with
  | .animatedPart layer offset list =>
    if m.scope.node.visible then
      some ⟨layer, offset, list, m.scope.node, (s.perform m.scope m.walk m.command).1.node,
        s.placed m⟩
    else none
  | _ => none

structure Drives (part : Part) (matrix : Matrix) : Prop where
  after : part.after = part.before.turn matrix
  placed : part.placed =
    if s.isNull part.list then []
    else [⟨part.list, part.layer, part.before.transform * matrix, part.before.zBuffer,
      part.before.billboard⟩]

structure Animates (a : Animation) (frame : Int32) (w : Walk) (ms : List Moment) (w' : Walk) :
    Prop where
  joint : w'.joint = w.joint + (ms.filterMap s.part?).length
  plays : w.Plays a frame → w'.Plays a frame
  drives : w.Plays a frame → ∀ k part, (ms.filterMap s.part?)[k]? = some part →
    s.Drives part (a.jointMatrix frame (w.joint + k) part.offset)

variable {s} {a : Animation} {frame : Int32}

lemma Animates.append {w w' w'' : Walk} {ms ms' : List Moment} (h : s.Animates a frame w ms w')
    (h' : s.Animates a frame w' ms' w'') : s.Animates a frame w (ms ++ ms') w'' where
  joint := by rw [h'.joint, h.joint, List.filterMap_append, List.length_append, Nat.add_assoc]
  plays hw := h'.plays (h.plays hw)
  drives hw k part hk := by
    rw [List.filterMap_append, List.getElem?_append] at hk
    split at hk
    · exact h.drives hw k part hk
    · have hd := h'.drives (h.plays hw) _ part hk
      rwa [h.joint, Nat.add_assoc, Nat.add_sub_cancel' (by omega)] at hd

lemma part?_of_visible (path : List String) (line : Nat) {sc : Scope} (hv : sc.node.visible)
    (w : Walk) (layer : DrawLayer) (offset : Vec3 Float32) (list : String) :
    s.part? ⟨path, line, sc, w, .animatedPart layer offset list⟩ =
      some ⟨layer, offset, list, sc.node,
        (s.perform sc w (.animatedPart layer offset list)).1.node,
        s.placed ⟨path, line, sc, w, .animatedPart layer offset list⟩⟩ :=
  if_pos hv

lemma animates_part {path : List String} {line : Nat} {sc : Scope} {w : Walk} {layer : DrawLayer}
    {offset : Vec3 Float32} {list : String} (hv : sc.node.visible)
    (h : s.perform sc w (.animatedPart layer offset list) =
      ({ sc with node := sc.node.turn (w.nextJoint offset).1 },
        s.place (w.nextJoint offset).2 (sc.node.turn (w.nextJoint offset).1) layer list
          (sc.node.transform * (w.nextJoint offset).1))) :
    s.Animates a frame w [⟨path, line, sc, w, .animatedPart layer offset list⟩]
      (s.perform sc w (.animatedPart layer offset list)).2 := by
  obtain ⟨playhead, hj⟩ := nextJoint_eq w offset
  have hpart := s.part?_of_visible path line hv w layer offset list
  have hplaced : s.placed ⟨path, line, sc, w, .animatedPart layer offset list⟩ =
      if s.isNull list then []
      else [⟨list, layer, sc.node.transform * (w.nextJoint offset).1, sc.node.zBuffer,
        sc.node.billboard⟩] := by
    have hv' : (sc.node.turn (w.nextJoint offset).1).visible = true := hv
    simp only [placed, h, place_eq, hj, hv', List.drop_left, Bool.not_true, Bool.or_false]
    rfl
  refine ⟨?_, fun hw => ?_, fun hw k part hk => ?_⟩
  · simp [hpart, h, place_eq, hj]
  · rw [h, place_eq]
    exact (hw.nextJoint offset).2
  · rw [List.filterMap_cons, hpart, List.filterMap_nil, List.getElem?_singleton] at hk
    split_ifs at hk with h0
    obtain rfl := Option.some.inj hk
    rw [(hw.nextJoint offset).1] at h hplaced
    rw [h0]
    exact ⟨congrArg (·.1.node) h, hplaced⟩

lemma lasting_animates (s : Setting) (a : Animation) (frame : Int32) :
    s.Lasting (s.Animates a frame) where
  nil w log := ⟨rfl, id, by simp⟩
  append w ms w' ms' w'' := Animates.append
  perform path line sc w c := by
    obtain ⟨layer, offset, list, rfl, hv, h⟩ | ⟨hc, ps, hps⟩ := s.perform_cases sc w c
    · exact animates_part hv h
    · have hnone : s.part? ⟨path, line, sc, w, c⟩ = none := by
        cases c with
        | animatedPart layer offset list => simp [part?, hc layer offset list rfl]
        | _ => rfl
      rw [hps]
      exact ⟨by simp [hnone], id, by simp [hnone]⟩

end Setting

namespace Animation

def Covers (a : Animation) (frame : Int32) (channel : Nat) : Prop :=
  ∃ count start, a.index[2 * channel]? = some count ∧ a.index[2 * channel + 1]? = some start ∧
    0 < count ∧ 0 ≤ samplePosition count start frame ∧
      samplePosition count start frame < a.values.length

lemma channel_of_not_covers {a : Animation} {frame : Int32} {n : Nat}
    (h : ¬ a.Covers frame n) : a.channel frame n = 0 := by
  rw [channel, sample]
  split
  · rename_i count start hcount hstart
    dsimp only
    split_ifs with hpos
    · have hlen : a.values.length ≤ (samplePosition count start frame).toNat :=
        Nat.le_of_not_lt fun hlt => h ⟨count, start, hcount, hstart, hpos.1, hpos.2, by omega⟩
      rw [List.getElem?_eq_none hlen, Option.getD_none]
    · rfl
  · rfl

end Animation

/--
The joints of a layout that is flattened with an animation are the parts that were performed, in the
order of the moments and across all branches. The cursor that the animation is read with is not
mentioned: a joint's number is enough to find its channels.
-/
theorem interpret_joints {lookup : Lookup} {a : Animation} {options : Options} {root : String}
    {placements : List Placement}
    (h : (interpret lookup (some a) options root).1 = .ok placements) :
    let s := settingOf lookup options root
    let moments := s.moments root (some { animation := a, frame := options.frame })
    let parts := moments.filterMap s.part?
    placements = moments.flatMap s.placed ∧
      (∀ k part, parts[k]? = some part →
        s.Drives part (a.jointMatrix options.frame k part.offset)) ∧
      (∀ n, ¬ a.Covers options.frame n → a.channel options.frame n = 0) ∧
      let text :=
        s!"interpreted geo layout {root}: {placements.length} placements, {parts.length} joints"
      ∃ log, (interpret lookup (some a) options root).2 = log ++ [⟨.debug, .layout, text⟩] := by
  intro s moments parts
  rw [interpret_eq] at h ⊢
  split at h
  · rename_i w hw
    obtain rfl := Except.ok.inj h
    have hdrive := (s.lasting_animates a options.frame).runRoot hw
    have hplays : ({ playhead := some ⟨a, options.frame, 0⟩ } : Walk).Plays a options.frame :=
      ⟨0, rfl, fun h0 => absurd rfl h0⟩
    have hjoint : w.joint = parts.length := hdrive.joint.trans (Nat.zero_add _)
    refine ⟨s.lasting_placed.runRoot hw, fun k part hk => ?_,
      fun n => Animation.channel_of_not_covers, w.log, ?_⟩
    · have hpart := hdrive.drives hplays k part hk
      rwa [Nat.zero_add] at hpart
    · rw [← hjoint]
  · cases h

def stilts : Sources where
  layouts := .ofList [("root", ["GEO_SWITCH_CASE(2, swap)",
      "GEO_ANIMATED_PART(LAYER_OPAQUE, 0, 0, 0, NULL)",
      "GEO_ANIMATED_PART(LAYER_OPAQUE, 0, 5, 0, hat)", "GEO_OPEN_NODE()", "GEO_BRANCH(1, leg)",
      "GEO_CLOSE_NODE()", "GEO_ANIMATED_PART(LAYER_ALPHA, 3, 0, 0, arm)"]),
    ("leg", ["GEO_ANIMATED_PART(LAYER_OPAQUE, 0, 20, 0, shin)"])]

def stride : Animation where
  flags := 0x10
  index := [1, 0, 2, 1, 1, 0, 1, 0, 1, 0, 1, 0, 2, 1, 1, 2]
  values := [0, 50, 60]

theorem interpret_joints_stilts :
    let s := settingOf stilts.lookup { frame := 1 } "root"
    let parts := (s.moments "root" (some { animation := stride, frame := 1 })).filterMap s.part?
    parts.length = 3 ∧ ∀ k part, parts[k]? = some part →
      s.Drives part (stride.jointMatrix 1 k part.offset) := by
  have hrun : (interpret stilts.lookup (some stride) { frame := 1 } "root").1.isOk := by
    decide +kernel
  refine ⟨by decide +kernel, ?_⟩
  cases hok : (interpret stilts.lookup (some stride) { frame := 1 } "root").1 with
  | error e => simp [hok, Except.isOk, Except.toBool] at hrun
  | ok placements => exact (interpret_joints hok).2.1

end SceneDraw.Layout
