import SceneDraw.Proofs.DisplayList.Partition
import SceneDraw.Proofs.Layout.Branching

/-! A limit on depth only limits. A run under a smaller limit goes the same way as one under a larger
limit up to the place where the smaller limit is reached, so a run that does not end there is the
same under both, whether it succeeds or not. -/

namespace SceneDraw

/-- The second run is the first one, unless that ends in an error that is excused. -/
def SameUnless {ε α : Type} (excused : ε → Prop) (a b : Except (Stopped ε) α) : Prop :=
  (∃ e, a = .error e ∧ excused e.error) ∨ b = a

namespace SameUnless

variable {ε α β : Type} {excused : ε → Prop} {a b : Except (Stopped ε) α}
  {f g : α → Except (Stopped ε) β}

lemma refl (a : Except (Stopped ε) α) : SameUnless excused a a := .inr rfl

lemma bind (h : SameUnless excused a b) (hf : ∀ x, SameUnless excused (f x) (g x)) :
    SameUnless excused (a >>= f) (b >>= g) := by
  rcases h with ⟨e, rfl, he⟩ | rfl
  · exact .inl ⟨e, rfl, he⟩
  · cases b with
    | error e => exact .inr rfl
    | ok x => exact hf x

lemma eq (h : SameUnless excused a b) (hn : ∀ e, a = .error e → ¬excused e.error) : b = a := by
  rcases h with ⟨e, ha, he⟩ | h
  · exact absurd he (hn e ha)
  · exact h

end SameUnless

end SceneDraw

namespace SceneDraw.DisplayList

def Setting.withDepth (s : Setting) (maxDepth : Nat) : Setting :=
  { s with options := { s.options with maxDepth } }

abbrev SameWithin (a b : Outcome) : Prop := SameUnless (fun e => ∃ name, e = .tooDeep name) a b

section

variable {s : Setting} {eager : Bool} {d : Nat} {call call' jump jump' : String → Machine → Outcome}

lemma sameWithin_tooDeep (m : Machine) (name : String) (b : Outcome) :
    SameWithin (m.stop (.tooDeep name)) b :=
  .inl ⟨_, rfl, name, rfl⟩

lemma runLines_sameWithin (hc : ∀ list m, SameWithin (call list m) (call' list m))
    (hj : ∀ list m, SameWithin (jump list m) (jump' list m)) (name : String) (line : Nat)
    (along : Bool) (script : List Line) (m : Machine) :
    SameWithin (runLines s eager call jump name line along script m)
      (runLines (s.withDepth d) eager call' jump' name line along script m) := by
  induction script generalizing line along m with
  | nil => exact .refl _
  | cons l rest ih =>
    rcases l with e | _ | c
    · exact .refl _
    · exact ih _ _ _
    · cases c with
      | call list => exact .bind (hc list m) fun m => ih _ _ _
      | jump list => exact hj list m
      | finish => exact .refl _
      | triangle t => exact .bind (.refl _) fun m => ih _ _ _
      | twoTriangles t u => exact .bind (.refl _) fun m => ih _ _ _
      | _ => exact .bind (.refl _) fun m => ih _ _ _

lemma runList_sameWithin (hc : ∀ list m, SameWithin (call list m) (call' list m))
    {jumps jumps' : Nat} (h : jumps ≤ jumps') (name : String) (m : Machine) :
    SameWithin (runList s eager call jumps name m)
      (runList (s.withDepth d) eager call' jumps' name m) := by
  induction jumps generalizing jumps' name m with
  | zero =>
    have hj (jump' : String → Machine → Outcome) (list : String) (m : Machine) :
        SameWithin (m.stop (.tooDeep list)) (jump' list m) := sameWithin_tooDeep m list _
    cases jumps' <;> exact .bind (.refl _) fun script => runLines_sameWithin hc (hj _) _ _ _ _ _
  | succ jumps ih =>
    obtain ⟨jumps', rfl⟩ : ∃ k, jumps' = k + 1 := ⟨jumps' - 1, by omega⟩
    have hj := fun list m => ih (Nat.le_of_succ_le_succ h) list m
    exact .bind (.refl _) fun script => runLines_sameWithin hc hj _ _ _ _ _

lemma runNested_sameWithin (hd : s.options.maxDepth ≤ d) {depth depth' : Nat} (h : depth ≤ depth')
    (name : String) (m : Machine) :
    SameWithin (runNested s eager depth name m)
      (runNested (s.withDepth d) eager depth' name m) := by
  induction depth generalizing depth' name m with
  | zero =>
    cases depth' <;> exact runList_sameWithin (fun list m => sameWithin_tooDeep m list _) hd _ _
  | succ depth ih =>
    obtain ⟨depth', rfl⟩ : ∃ k, depth' = k + 1 := ⟨depth' - 1, by omega⟩
    exact runList_sameWithin (fun list m => ih (Nat.le_of_succ_le_succ h) list m) hd _ _

lemma interpret_eq_of_le (hd : s.options.maxDepth ≤ d) {root : String}
    (hn : ∀ name, (interpret s root).1 ≠ .error (.tooDeep name)) :
    interpret (s.withDepth d) root = interpret s root := by
  have hrun : runNested (s.withDepth d) true d root {} =
      runNested s true s.options.maxDepth root {} := by
    refine (runNested_sameWithin hd hd root {}).eq fun e he ⟨name, hl⟩ => hn name ?_
    rw [interpret, interpretWith, he]
    exact congrArg Except.error hl
  rw [interpret, interpret, interpretWith, interpretWith, ← hrun]
  rfl

end

end SceneDraw.DisplayList

namespace SceneDraw.Layout

def Setting.withDepth (s : Setting) (maxDepth : Nat) : Setting :=
  { s with options := { s.options with maxDepth } }

abbrev SameWithin {α : Type} (a b : Except (Stopped Error) α) : Prop :=
  SameUnless (fun e => ∃ name, e = .tooDeep name) a b

namespace Setting

variable {s : Setting} {d : Nat}

lemma sameWithin_parametric : Parametric fun _ => SameWithin where
  ok a := .refl (.ok a)
  decode _ _ _ _ := .refl _
  bind h hf := h.bind hf

lemma runLines_withDepth (branch : Branching) (name : String) (line : Nat) (lines : List Line)
    (sc : Scope) (w : Walk) :
    (s.withDepth d).runLines branch name line lines sc w =
      s.runLines branch name line lines sc w := by
  apply runLines_congr
  · exact ⟨d, s.options.policy, rfl⟩
  · rfl

lemma branching_of_mem {path : List String} {layout : String} {script : List Line}
    (hs : s.script layout = .ok script) (hl : layout ∈ path) (room : Nat) (node : Node) (w : Walk) :
    s.branching room path layout node w = w.stop (.cycle layout) := by
  cases room with
  | zero => rw [branching_zero path hs, if_pos hl]
  | succ room => rw [branching_succ room path hs, if_pos hl]

lemma branching_withDepth_of_error {layout : String} {e : Error} (hs : s.script layout = .error e)
    (d room room' : Nat) (path : List String) (node : Node) (w : Walk) :
    (s.withDepth d).branching room' path layout node w = s.branching room path layout node w := by
  have hs' : (s.withDepth d).script layout = .error e := hs
  rw [branching, branching, follow, follow, hs, hs']
  cases e <;> rfl

lemma branching_sameWithin {room room' : Nat} (h : room ≤ room') (path : List String)
    (layout : String) (node : Node) (w : Walk) :
    SameWithin (s.branching room path layout node w)
      ((s.withDepth d).branching room' path layout node w) := by
  induction room generalizing room' path layout node w with
  | zero =>
    cases hs : s.script layout with
    | error e => exact .inr (branching_withDepth_of_error hs _ _ _ _ _ _)
    | ok script =>
      have hs' : (s.withDepth d).script layout = .ok script := hs
      by_cases hl : layout ∈ path
      · rw [branching_of_mem hs hl, branching_of_mem hs' hl]
        exact .refl _
      · rw [branching_zero path hs, if_neg hl]
        exact .inl ⟨_, rfl, layout, rfl⟩
  | succ room ih =>
    cases hs : s.script layout with
    | error e => exact .inr (branching_withDepth_of_error hs _ _ _ _ _ _)
    | ok script =>
      have hs' : (s.withDepth d).script layout = .ok script := hs
      obtain ⟨room', rfl⟩ : ∃ k, room' = k + 1 := ⟨room' - 1, by omega⟩
      rw [branching_succ room path hs, branching_succ room' path hs']
      split
      · exact .refl _
      · rw [runLines_withDepth]
        exact sameWithin_parametric.runLines (ih (Nat.le_of_succ_le_succ h) _) _ _ _ _ _

lemma runRoot_sameWithin (hd : s.options.maxDepth ≤ d) (root : String)
    (playhead : Option Playhead) :
    SameWithin (runRoot s root playhead) (runRoot (s.withDepth d) root playhead) := by
  cases hs : s.script root with
  | error e =>
    have hs' : (s.withDepth d).script root = .error e := hs
    rw [runRoot, runRoot, hs, hs']
    exact .refl _
  | ok script =>
    rw [runRoot_of_script hs, runRoot_of_script (s := s.withDepth d) hs]
    exact branching_sameWithin hd _ _ _ _

end Setting

lemma interpret_eq_of_le {lookup : Lookup} {animation : Option Animation} {options : Options}
    {d : Nat} (hd : options.maxDepth ≤ d) {root : String}
    (hn : ∀ name, (interpret lookup animation options root).1 ≠ .error (.tooDeep name)) :
    interpret lookup animation { options with maxDepth := d } root =
      interpret lookup animation options root := by
  let playhead : Option Playhead :=
    animation.map fun animation => { animation, frame := options.frame }
  have hrun : runRoot ((settingOf lookup options root).withDepth d) root playhead =
      runRoot (settingOf lookup options root) root playhead := by
    refine (Setting.runRoot_sameWithin hd root playhead).eq fun e he ⟨name, hl⟩ => hn name ?_
    rw [interpret_eq, he]
    exact congrArg Except.error hl
  rw [interpret_eq, interpret_eq, ← hrun]
  rfl

end SceneDraw.Layout

namespace SceneDraw

theorem interpret_withDepth :
    (∀ (s : DisplayList.Setting) root d, s.options.maxDepth ≤ d →
      (∀ name, (DisplayList.interpret s root).1 ≠ .error (.tooDeep name)) →
      DisplayList.interpret (s.withDepth d) root = DisplayList.interpret s root) ∧
    ∀ lookup animation (options : Layout.Options) root d, options.maxDepth ≤ d →
      (∀ name, (Layout.interpret lookup animation options root).1 ≠ .error (.tooDeep name)) →
      Layout.interpret lookup animation { options with maxDepth := d } root =
        Layout.interpret lookup animation options root :=
  ⟨fun _ _ _ hd hn => DisplayList.interpret_eq_of_le hd hn,
    fun _ _ _ _ _ hd hn => Layout.interpret_eq_of_le hd hn⟩

def knot : Sources where
  layouts := .ofList [("root", ["GEO_BRANCH(1, loop)"]), ("loop", ["GEO_BRANCH(1, root)"])]

theorem interpret_withDepth_knot :
    (DisplayList.interpret (.withDepth .relay 0) "root").1 = .error (.tooDeep "child") ∧
      (DisplayList.interpret (.withDepth .relay 1) "root").1.isOk ∧
      DisplayList.interpret (.withDepth (.withDepth .relay 1) 64) "root" =
        DisplayList.interpret (.withDepth .relay 1) "root" ∧
      (Layout.interpret knot.lookup none { maxDepth := 1 } "root").1 = .error (.tooDeep "loop") ∧
      (Layout.interpret knot.lookup none { maxDepth := 2 } "root").1 = .error (.cycle "root") ∧
      (Layout.interpret knot.lookup none { maxDepth := 64 } "root").1 = .error (.cycle "root") := by
  obtain ⟨batches, hb⟩ : ∃ batches,
      (DisplayList.interpret (.withDepth .relay 1) "root").1 = .ok batches := ⟨_, rfl⟩
  have hk : (Layout.interpret knot.lookup none { maxDepth := 2 } "root").1 =
      .error (.cycle "root") := by decide +kernel
  refine ⟨rfl, rfl, ?_, by decide +kernel, hk, ?_⟩
  · exact interpret_withDepth.1 _ _ _ (by decide) (by simp [hb])
  · have h := interpret_withDepth.2 knot.lookup none { maxDepth := 2 } "root" 64 (by decide)
      (by simp [hk])
    exact (congrArg Prod.fst h).trans hk

end SceneDraw
