import SceneDraw.Proofs.Layout.Steps

/-! The layouts that a layout branches to, and what becomes of a run when scripts are replaced. A
replacement that does the same in each run leaves all results as they are. One that does the same in
the runs that are not stopped leaves these as they are, and it may need less room. -/

namespace SceneDraw.Layout

namespace Setting

variable {s : Setting} {branch : Branching} {name : String} {line : Nat}
  {script' : String → Except Error (List Line)}

lemma runLines_withScripts (branch : Branching) (name : String) (line : Nat) (lines : List Line)
    (sc : Scope) (w : Walk) :
    { s with script := script' }.runLines branch name line lines sc w =
      s.runLines branch name line lines sc w := by
  apply runLines_congr
  · exact ⟨s.options.maxDepth, s.options.policy, rfl⟩
  · rfl

lemma branching_zero (path : List String) {layout : String} {script : List Line}
    (h : s.script layout = .ok script) (node : Node) (w : Walk) :
    s.branching 0 path layout node w =
      w.stop (if layout ∈ path then .cycle layout else .tooDeep layout) := by
  rw [branching, follow, h]
  rfl

lemma branching_succ (room : Nat) (path : List String) {layout : String} {script : List Line}
    (h : s.script layout = .ok script) (node : Node) (w : Walk) :
    s.branching (room + 1) path layout node w =
      if layout ∈ path then w.stop (.cycle layout)
      else s.runLines (s.branching room (layout :: path)) layout 0 script (.enter node) w := by
  rw [branching, follow, h]
  rfl

lemma branching_of_error {layout : String} {e : Error} (h : s.script layout = .error e)
    (h' : script' layout = .error e) (room room' : Nat) (path path' : List String)
    (node node' : Node) (w : Walk) :
    { s with script := script' }.branching room' path' layout node' w =
      s.branching room path layout node w := by
  simp only [branching, follow, h, h']
  cases e <;> rfl

/-- The same layouts are missing, for the same reasons. The two scripts of any other are related. -/
def Replaced (P : String → List Line → List Line → Prop) (s : Setting)
    (script' : String → Except Error (List Line)) : Prop :=
  ∀ layout, (∃ e, s.script layout = .error e ∧ script' layout = .error e) ∨
    ∃ old new, s.script layout = .ok old ∧ script' layout = .ok new ∧ P layout old new

lemma replaced_of_eq {P : String → List Line → List Line → Prop} {name : String}
    {old new : List Line} (hold : s.script name = .ok old) (hnew : script' name = .ok new)
    (hother : ∀ other, other ≠ name → script' other = s.script other) (hP : P name old new)
    (hrefl : ∀ layout script, P layout script script) : Replaced P s script' := by
  intro layout
  by_cases hl : layout = name
  · exact .inr ⟨old, new, hl ▸ hold, hl ▸ hnew, hl ▸ hP⟩
  · cases hs : s.script layout with
    | error e => exact .inl ⟨e, rfl, (hother layout hl).trans hs⟩
    | ok script => exact .inr ⟨script, script, rfl, (hother layout hl).trans hs, hrefl _ _⟩

def Keeps (s : Setting) (name : String) (old new : List Line) : Prop :=
  ∀ room path node w, s.runLines (s.branching room path) name 0 new (.enter node) w =
    s.runLines (s.branching room path) name 0 old (.enter node) w

lemma Keeps.refl (s : Setting) (name : String) (script : List Line) : s.Keeps name script script :=
  fun _ _ _ _ => rfl

lemma branching_withScripts (h : Replaced s.Keeps s script') (room : Nat) (path : List String) :
    { s with script := script' }.branching room path = s.branching room path := by
  induction room generalizing path with
  | zero =>
    funext layout node w
    obtain ⟨e, he, he'⟩ | ⟨old, new, hold, hnew, -⟩ := h layout
    · exact branching_of_error he he' _ _ _ _ _ _ _
    rw [branching_zero path hold, branching_zero (s := { s with script := script' }) path hnew]
  | succ room ih =>
    funext layout node w
    obtain ⟨e, he, he'⟩ | ⟨old, new, hold, hnew, hrun⟩ := h layout
    · exact branching_of_error he he' _ _ _ _ _ _ _
    rw [branching_succ room path hold,
      branching_succ (s := { s with script := script' }) room path hnew, ih, runLines_withScripts,
      hrun]

lemma runRoot_of_script {root : String} {script : List Line} (h : s.script root = .ok script)
    (playhead : Option Playhead) :
    runRoot s root playhead = s.branching s.options.maxDepth [] root .root { playhead } := by
  rw [runRoot, branching, follow, h]

lemma runRoot_withScripts (h : Replaced s.Keeps s script') (root : String)
    (playhead : Option Playhead) :
    runRoot { s with script := script' } root playhead = runRoot s root playhead := by
  obtain ⟨e, he, he'⟩ | ⟨old, new, hold, hnew, -⟩ := h root
  · simp only [runRoot, he, he']
  · rw [runRoot_of_script hold, runRoot_of_script (s := { s with script := script' }) hnew,
      branching_withScripts h]

end Setting

def Refines {α : Type} (a b : Except (Stopped Error) α) : Prop := ∀ x, a = .ok x → b = .ok x

def Branching.Refines (branch branch' : Branching) : Prop :=
  ∀ layout node w, Layout.Refines (branch layout node w) (branch' layout node w)

namespace Refines

variable {α β : Type} {a b d : Except (Stopped Error) α} {f g : α → Except (Stopped Error) β}

lemma refl (a : Except (Stopped Error) α) : Refines a a := fun _ h => h

lemma trans (h : Refines a b) (h' : Refines b d) : Refines a d := fun x hx => h' x (h x hx)

lemma of_error (e : Stopped Error) : Refines (.error e) b := fun _ h => nomatch h

lemma bind (h : Refines a b) (hf : ∀ x, a = .ok x → Refines (f x) (g x)) :
    Refines (a >>= f) (b >>= g) := by
  intro y hy
  obtain ⟨x, hx, hy⟩ := ok_of_bind hy
  rw [h x hx]
  exact hf x hx y hy

end Refines

lemma refines_parametric : Parametric fun _ => Refines where
  ok a := .refl (.ok a)
  decode _ _ _ _ := .refl _
  bind h hf := h.bind fun x _ => hf x

lemma Branching.Refines.refl (branch : Branching) : branch.Refines branch :=
  fun _ _ _ => Layout.Refines.refl _

namespace Setting

variable {s : Setting} {branch branch' : Branching} {name name' : String} {line line' : Nat}
  {p : Scope × Walk} {c : Command} {script' : String → Except Error (List Line)}

lemma steps_mono (h : branch.Refines branch') (lines : List Line) (p : Scope × Walk) :
    Refines (s.steps branch name line lines p) (s.steps branch' name' line' lines p) := by
  induction lines generalizing line line' p with
  | nil => exact .refl _
  | cons l rest ih =>
    rcases l with e | _ | c
    · exact .of_error _
    · exact ih _
    · exact .bind (refines_parametric.exec h _ _) fun _ _ => ih _

lemma runLines_mono {lines lines' : List Line} {sc : Scope} {w : Walk}
    (h : Refines (s.steps branch name line lines (sc, w))
      (s.steps branch' name line lines' (sc, w))) :
    Refines (s.runLines branch name line lines sc w)
      (s.runLines branch' name line lines' sc w) := by
  rw [s.runLines_eq_steps branch name line lines (sc, w),
    s.runLines_eq_steps branch' name line lines' (sc, w)]
  exact h.bind fun _ _ => .refl _

def Improves (s : Setting) (name : String) (old new : List Line) : Prop :=
  ∀ room path branch' node w, (s.branching room path).Refines branch' →
    Refines (s.runLines (s.branching room path) name 0 old (.enter node) w)
      (s.runLines branch' name 0 new (.enter node) w)

lemma Improves.refl (s : Setting) (name : String) (script : List Line) :
    s.Improves name script script :=
  fun _ _ _ _ _ h => runLines_mono (steps_mono h _ _)

lemma branching_refines (h : Replaced s.Improves s script')
    {room room' : Nat} {path path' : List String} (hroom : room ≤ room') (hpath : path' ⊆ path) :
    (s.branching room path).Refines ({ s with script := script' }.branching room' path') := by
  induction room generalizing room' path path' with
  | zero =>
    intro layout node w
    obtain ⟨e, he, he'⟩ | ⟨old, new, hold, hnew, -⟩ := h layout
    · exact (branching_of_error he he' _ _ _ _ _ _ _).symm ▸ .refl _
    rw [branching_zero path hold]
    exact .of_error _
  | succ room ih =>
    intro layout node w
    obtain ⟨e, he, he'⟩ | ⟨old, new, hold, hnew, hrun⟩ := h layout
    · exact (branching_of_error he he' _ _ _ _ _ _ _).symm ▸ .refl _
    obtain ⟨room', rfl⟩ : ∃ k, room' = k + 1 := ⟨room' - 1, by omega⟩
    rw [branching_succ room path hold,
      branching_succ (s := { s with script := script' }) room' path' hnew]
    split
    · exact .of_error _
    · -- What is not among the many layouts of `path` is not among the few of `path'`.
      rename_i hl
      rw [if_neg fun hl' => hl (hpath hl')]
      have hb := ih (Nat.le_of_succ_le_succ hroom) (List.cons_subset_cons layout hpath)
      exact fun w' hw => (runLines_withScripts _ _ _ _ _ _).trans (hrun _ _ _ _ _ hb w' hw)

lemma branching_mono {room room' : Nat} {path path' : List String} (hroom : room ≤ room')
    (hpath : path' ⊆ path) : (s.branching room path).Refines (s.branching room' path') := by
  have h : Replaced s.Improves s s.script := by
    intro layout
    cases hs : s.script layout with
    | error e => exact .inl ⟨e, rfl, rfl⟩
    | ok script => exact .inr ⟨script, script, rfl, rfl, .refl s layout script⟩
  exact branching_refines h hroom hpath

lemma runRoot_refines (h : Replaced s.Improves s script')
    (root : String) (playhead : Option Playhead) :
    Refines (runRoot s root playhead) (runRoot { s with script := script' } root playhead) := by
  obtain ⟨e, he, he'⟩ | ⟨old, new, hold, hnew, -⟩ := h root
  · simp only [runRoot, he, he']
    exact .refl _
  · rw [runRoot_of_script hold, runRoot_of_script (s := { s with script := script' }) hnew]
    exact branching_refines h (Nat.le_refl _) (List.Subset.refl _) _ _ _

end Setting

lemma scripts_insert (sources : Sources) (name : String) (lines : List String) (other : String) :
    scripts (sources.insert .layout name lines).lookup other =
      if name = other then .ok (lines.map decodeLine) else scripts sources.lookup other := by
  simp only [scripts, Sources.lookup, Sources.insert, Sources.table, KeyMap.find?_insert]
  by_cases h : name = other <;> simp only [if_pos, if_neg, h, not_false_eq_true]

def settingOf (lookup : Lookup) (options : Options) (root : String) : Setting :=
  ⟨scripts lookup, options, options.asymmetricLayouts.contains root⟩

lemma interpret_eq (lookup : Lookup) (animation : Option Animation) (options : Options)
    (root : String) :
    interpret lookup animation options root =
      match runRoot (settingOf lookup options root) root
        (animation.map fun animation => { animation, frame := options.frame }) with
      | .ok w => (.ok w.placements, w.log ++ [⟨.debug, .layout,
          s!"interpreted geo layout {root}: {w.placements.length} placements, {w.joint} joints"⟩])
      | .error e => (.error e.error, e.log) :=
  rfl

lemma interpret_of_refines {lookup lookup' : Lookup} {animation : Option Animation}
    {options : Options} {root : String} {placements : List Placement}
    (h : ∀ playhead, Refines (runRoot (settingOf lookup options root) root playhead)
      (runRoot (settingOf lookup' options root) root playhead))
    (hok : (interpret lookup animation options root).1 = .ok placements) :
    interpret lookup' animation options root = interpret lookup animation options root := by
  rw [interpret_eq] at hok ⊢
  rw [interpret_eq]
  split at hok
  · rename_i w hw
    rw [h _ w hw]
  · cases hok

end SceneDraw.Layout
