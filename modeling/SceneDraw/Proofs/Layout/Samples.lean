import SceneDraw.Proofs.Layout.Joints

/-! What an animation shows through its channels. Wherever reads and joints take the cursor, it is
at a channel. From the first frame on, a channel shows one of its own samples, in the end the last
one, or zero where the tables are too short. A frame before the first one counts back from the first
sample, so it may show what belongs to another channel. -/

namespace SceneDraw.Layout

inductive Use
  | read
  | joint (offset : Vec3 Float32) (number : Nat)

def Playhead.use (p : Playhead) : Use → Playhead
  | .read => p.read.2
  | .joint offset number => (p.joint offset number).2

namespace Animation

variable (a : Animation) (frame : Int32)

def extent? (n : Nat) : Option (UInt16 × UInt16) :=
  match a.index[2 * n]?, a.index[2 * n + 1]? with
  | some count, some start => some (count, start)
  | _, _ => none

def valueAt (position : Nat) : Int16 := a.values[position]?.getD 0

inductive Shows (n : Nat) : Int16 → Prop
  | missing : a.extent? n = none → Shows n 0
  | empty {start : UInt16} : a.extent? n = some (0, start) → Shows n 0
  | current {count start : UInt16} : a.extent? n = some (count, start) → 0 ≤ frame.toInt →
      frame.toInt < count.toNat → Shows n (a.valueAt (start.toNat + frame.toInt.toNat))
  | last {count start : UInt16} : a.extent? n = some (count, start) → 0 < count.toNat →
      count.toNat ≤ frame.toInt → Shows n (a.valueAt (start.toNat + (count.toNat - 1)))
  | before {count start : UInt16} : a.extent? n = some (count, start) → 0 < count.toNat →
      frame.toInt < 0 → Shows n
        (if 0 ≤ start.toNat + frame.toInt then a.valueAt (start.toNat + frame.toInt).toNat else 0)

def Owns (n : Nat) (x : Int16) : Prop :=
  x = 0 ∨ ∃ count start j, a.extent? n = some (count, start) ∧ start.toNat ≤ j ∧
    j < start.toNat + count.toNat ∧ a.values[j]? = some x

def turn (first : Nat) : Vec3 Float32 :=
  (⟨a.channel frame first, a.channel frame (first + 1), a.channel frame (first + 2)⟩ :
    Vec3 Int16).map degrees

variable {a frame} {n : Nat} {x : Int16} {count start : UInt16}

lemma channel_of_extent? (h : a.extent? n = some (count, start)) : a.channel frame n =
    if 0 < count ∧ 0 ≤ samplePosition count start frame then
      a.valueAt (samplePosition count start frame).toNat
    else 0 := by
  rw [extent?] at h
  split at h
  · rename_i hc hs
    obtain ⟨rfl, rfl⟩ := Prod.mk.inj (Option.some.inj h)
    rw [channel, sample, hc, hs]
    rfl
  · cases h

lemma channel_of_extent?_eq_none (h : a.extent? n = none) : a.channel frame n = 0 := by
  rw [extent?] at h
  rw [channel, sample]
  split <;> simp_all

lemma channel_shows (a : Animation) (frame : Int32) (n : Nat) :
    a.Shows frame n (a.channel frame n) := by
  cases he : a.extent? n with
  | none =>
    rw [channel_of_extent?_eq_none he]
    exact .missing he
  | some extent =>
    obtain ⟨count, start⟩ := extent
    rw [channel_of_extent? he]
    by_cases hc : count = 0
    · subst hc
      rw [if_neg (by simp)]
      exact .empty he
    have hpos : 0 < count := UInt16.pos_iff_ne_zero.2 hc
    have hpos' : 0 < count.toNat := by simpa [UInt16.lt_iff_toNat_lt] using hpos
    by_cases hlast : (count.toNat : Int) ≤ frame.toInt
    · have hp : samplePosition count start frame = (start.toNat + (count.toNat - 1) : Nat) := by
        rw [samplePosition, if_neg (by omega)]
        omega
      rw [hp, if_pos ⟨hpos, by omega⟩]
      exact .last he hpos' hlast
    by_cases hfirst : 0 ≤ frame.toInt
    · have hp : samplePosition count start frame = (start.toNat + frame.toInt.toNat : Nat) := by
        rw [samplePosition, if_pos (by omega)]
        omega
      rw [hp, if_pos ⟨hpos, by omega⟩]
      exact .current he hfirst (by omega)
    · have hp : samplePosition count start frame = start.toNat + frame.toInt := by
        rw [samplePosition, if_pos (by omega)]
      simp only [hp, hpos, true_and]
      exact .before he hpos' (by omega)

lemma owns_valueAt (h : a.extent? n = some (count, start)) {j : Nat} (hs : start.toNat ≤ j)
    (hj : j < start.toNat + count.toNat) : a.Owns n (a.valueAt j) := by
  rw [valueAt]
  cases hx : a.values[j]? with
  | none => exact .inl rfl
  | some x => exact .inr ⟨count, start, j, h, hs, hj, hx⟩

lemma Shows.owns (h : a.Shows frame n x) (hf : 0 ≤ frame.toInt) : a.Owns n x := by
  cases h with
  | missing => exact .inl rfl
  | empty => exact .inl rfl
  | current he _ hlt => exact owns_valueAt he (by omega) (by omega)
  | last he hpos _ => exact owns_valueAt he (by omega) (by omega)
  | before _ _ hneg => omega

end Animation

section

variable {a : Animation} {frame : Int32}

lemma joint_at (n : Nat) (offset : Vec3 Float32) (number : Nat) :
    (Playhead.mk a frame (2 * n)).joint offset number =
      let first := if number = 0 then 3 else n
      (.translate (if number = 0 then a.rootOffset frame offset else offset) *
        .rotateXYZ (a.turn frame first), ⟨a, frame, 2 * (first + 3)⟩) := by
  rw [Playhead.joint]
  split_ifs
  · rw [driveRoot_eq]
    rfl
  · rfl

lemma use_at (a : Animation) (frame : Int32) (n : Nat) (u : Use) :
    ∃ m, (Playhead.mk a frame (2 * n)).use u = ⟨a, frame, 2 * m⟩ := by
  cases u with
  | read => exact ⟨n + 1, rfl⟩
  | joint offset number => exact ⟨_, congrArg (·.2) (joint_at n offset number)⟩

lemma uses_at (a : Animation) (frame : Int32) (uses : List Use) (n : Nat) :
    ∃ m, uses.foldl Playhead.use (Playhead.mk a frame (2 * n)) = ⟨a, frame, 2 * m⟩ := by
  induction uses generalizing n with
  | nil => exact ⟨n, rfl⟩
  | cons u uses ih =>
    obtain ⟨m, hm⟩ := use_at a frame n u
    rw [List.foldl_cons, hm]
    exact ih m

end

theorem playhead_shows_channels (a : Animation) (frame : Int32) :
    (∀ n, a.Shows frame n (a.channel frame n) ∧
      (0 ≤ frame.toInt → a.Owns n (a.channel frame n))) ∧
    ∀ uses : List Use, ∃ n,
      let p := uses.foldl Playhead.use { animation := a, frame }
      p = ⟨a, frame, 2 * n⟩ ∧ p.read.1 = a.channel frame n ∧
        ∀ offset number, (p.joint offset number).1 =
          .translate (if number = 0 then a.rootOffset frame offset else offset) *
            .rotateXYZ (a.turn frame (if number = 0 then 3 else n)) := by
  refine ⟨fun n => ⟨a.channel_shows frame n, (a.channel_shows frame n).owns⟩, fun uses => ?_⟩
  obtain ⟨n, hn⟩ := uses_at a frame uses 0
  refine ⟨n, hn, ?_, fun offset number => ?_⟩
  · change (uses.foldl Playhead.use (Playhead.mk a frame (2 * 0))).read.1 = _
    rw [hn]
    rfl
  · change ((uses.foldl Playhead.use (Playhead.mk a frame (2 * 0))).joint offset number).1 = _
    rw [hn, joint_at]

theorem playhead_shows_channels_stride :
    let p := [.joint .zero 0].foldl Playhead.use { animation := stride, frame := 5 }
    (0 : Int) ≤ (5 : Int32).toInt ∧ stride.extent? 6 = some (2, 1) ∧ p.read.1 = 60 ∧
      stride.Owns 6 p.read.1 := by
  intro p
  have hread : p.read.1 = stride.channel 5 6 := rfl
  have howns := ((playhead_shows_channels stride 5).1 6).2 (by decide)
  exact ⟨by decide, rfl, rfl, hread ▸ howns⟩

theorem read_before_first_frame :
    let a : Animation := { index := [1, 1], values := [7, 0] }
    ({ animation := a, frame := -1 } : Playhead).read.1 = 7 ∧ ¬ a.Owns 0 7 := by
  refine ⟨rfl, ?_⟩
  rintro (h | ⟨count, start, j, he, hs, hj, hx⟩)
  · exact absurd h (by decide)
  · obtain ⟨rfl, rfl⟩ := Prod.mk.inj (Option.some.inj he)
    obtain rfl : j = 1 := Nat.le_antisymm (Nat.le_of_lt_succ hj) hs
    exact absurd hx (by decide)

end SceneDraw.Layout
