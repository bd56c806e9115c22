import Mathlib.Data.List.Infix
import SceneDraw.Proofs.Layout.Branching

namespace SceneDraw.Layout

def Node.untag (n : Node) : Node := { n with caseNumber := none }

def Scope.untag (sc : Scope) : Scope :=
  { sc with node := sc.node.untag, stack := sc.stack.map Node.untag }

def Branching.Blind (branch : Branching) : Prop :=
  ∀ layout node w, branch layout node.untag w = branch layout node w

namespace Setting

variable {s : Setting} {branch : Branching} {name : String} {line : Nat}

lemma perform_untag (s : Setting) (sc : Scope) (w : Walk) (c : Command) :
    s.perform sc.untag w c = ((s.perform sc w c).1.untag, (s.perform sc w c).2) := by
  cases c with
  | closeNode =>
    rcases hs : sc.stack with _ | ⟨n, _ | ⟨m, rest⟩⟩ <;> cases ha : s.asymmetric <;>
      simp [perform, Scope.closeNode, Scope.untag, hs, ha]
  | switchCase count selector =>
    simp only [perform]
    split <;> rfl
  | move motion layer list =>
    cases motion <;> cases list <;> rfl
  | animatedPart layer offset list =>
    have hv : sc.untag.node.visible = sc.node.visible := rfl
    rw [perform, perform, hv]
    split <;> rfl
  | _ => rfl

lemma visit_congr (hb : branch.Blind) {sc sc' : Scope}
    (h : sc'.branchNode.untag = sc.branchNode.untag) (w : Walk) (c : Command) :
    s.visit branch sc' w c = s.visit branch sc w c := by
  cases c with
  | branch layout link => rw [visit, visit, ← hb, h, hb]
  | _ => rfl

lemma untag_branchNode (sc : Scope) : sc.branchNode.untag = sc.node.untag := by
  rw [Scope.branchNode]
  split <;> rfl

lemma exec_untag (hb : branch.Blind) (sc : Scope) (w : Walk) (c : Command) :
    s.exec branch (sc.untag, w) c =
      (fun p => (p.1.untag, p.2)) <$> s.exec branch (sc, w) c := by
  have hv (sc : Scope) (w : Walk) : s.visit branch sc.untag w c = s.visit branch sc w c :=
    visit_congr hb (by simp only [untag_branchNode]; rfl) w c
  exact exec_map Scope.untag (fun _ _ => rfl) (s.perform_untag sc w c) hv

lemma runLines_untag (hb : branch.Blind) (lines : List Line) (sc : Scope) (w : Walk) :
    s.runLines branch name line lines sc.untag w = s.runLines branch name line lines sc w := by
  induction lines generalizing line sc w with
  | nil => rfl
  | cons l rest ih =>
    rcases l with e | _ | c
    · rfl
    · exact ih _ _
    · rw [runLines_cons, runLines_cons, exec_untag hb, bind_map_left]
      exact bind_congr fun p => ih _ _

lemma blind_branching (s : Setting) (room : Nat) (path : List String) :
    (s.branching room path).Blind := by
  induction room generalizing path with
  | zero =>
    intro layout node w
    cases hs : s.script layout with
    | ok script => rw [branching_zero path hs, branching_zero path hs]
    | error e => exact branching_of_error hs hs _ _ _ _ _ _ _
  | succ room ih =>
    intro layout node w
    cases hs : s.script layout with
    | ok script =>
      rw [branching_succ room path hs, branching_succ room path hs]
      exact if_congr Iff.rfl rfl (runLines_untag (ih _) _ (.enter node) _)
    | error e => exact branching_of_error hs hs _ _ _ _ _ _ _

end Setting

namespace Options

variable (o : Options)

def chooses : Command → Bool
  | .switchCase count selector => !(count = 0 ∨ o.inertSelectors.contains selector)
  | _ => false

def countCase (sw : Switch) (c : Command) : Switch :=
  if c.isCase then sw.advance
  else
    match c with
    | .switchCase count _ => if o.chooses c then { expected := count.toNat } else sw
    | _ => sw

def switchAfter (cs : List Command) : Switch := cs.foldl o.countCase {}

def Undisturbed (n : Nat) (cs : List Command) : Prop :=
  ∀ mid c tail, cs = mid ++ c :: tail → mid.countP (·.isCase) < n → o.chooses c = false

end Options

def dropCases : Nat → List Command → List Command
  | 0, cs => cs
  | _ + 1, [] => []
  | n + 1, c :: cs => if c.isCase then dropCases n cs else c :: dropCases (n + 1) cs

def keepFirstCase (n : Nat) : List Command → List Command
  | [] => []
  | c :: cs => if c.isCase then c :: dropCases (n - 1) cs else c :: keepFirstCase n cs

variable {o : Options} {n : Nat} {c : Command} {cs : List Command}

lemma Options.Undisturbed.head (h : o.Undisturbed n (c :: cs)) (hn : 0 < n) :
    o.chooses c = false :=
  h [] c cs rfl hn

lemma Options.Undisturbed.tail (h : o.Undisturbed n (c :: cs)) :
    o.Undisturbed (n - c.isCase.toNat) cs := by
  intro mid d tail he hm
  refine h (c :: mid) d tail (congrArg _ he) ?_
  rw [List.countP_cons]
  cases hc : c.isCase <;> simp [hc] at hm ⊢ <;> omega

lemma toNat_of_chooses {count : UInt32} {selector : String}
    (h : o.chooses (.switchCase count selector)) : 0 < count.toNat := by
  have hc : count ≠ 0 := by
    rintro rfl
    simp [Options.chooses] at h
  exact Nat.pos_of_ne_zero fun h0 => hc (UInt32.toNat_inj.1 h0)

namespace Switch

variable {sw : Switch}

def Proper (sw : Switch) : Prop := sw.active = false → sw = {}

lemma Proper.advance (sw : Switch) : sw.advance.Proper := by
  intro h
  rw [Switch.advance] at h ⊢
  split at h
  · rename_i ha
    simp [Switch.active] at h ha
    omega
  · rw [if_neg ‹_›]

lemma Proper.countCase (h : sw.Proper) (c : Command) : (o.countCase sw c).Proper := by
  rw [Options.countCase.eq_def]
  split
  · exact .advance sw
  split
  · split
    · rename_i hc
      have := toNat_of_chooses hc
      intro ha
      simp [active] at ha
      omega
    · exact h
  · exact h

lemma Proper.foldl (h : sw.Proper) (cs : List Command) : (cs.foldl o.countCase sw).Proper := by
  induction cs generalizing sw with
  | nil => exact h
  | cons c cs ih => exact ih (h.countCase c)

end Switch

lemma Options.switchAfter_of_not_active (h : (o.switchAfter cs).active = false) :
    o.switchAfter cs = {} :=
  Switch.Proper.foldl (fun _ => rfl) cs h

lemma Options.Undisturbed.left {ds : List Command} (h : o.Undisturbed n (cs ++ ds)) :
    o.Undisturbed n cs := by
  rintro mid c tail rfl hm
  exact h mid c (tail ++ ds) (by simp) hm

namespace Setting

variable {s : Setting} {branch : Branching} {sc : Scope} {w : Walk} {sw : Switch}

lemma perform_withSwitch (h : s.options.chooses c = false) (sc : Scope) (w : Walk) (sw : Switch) :
    s.perform { sc with switch := sw } w c =
      ({ (s.perform sc w c).1 with switch := sw }, (s.perform sc w c).2) := by
  cases c with
  | closeNode =>
    simp only [perform, Scope.closeNode]
    split <;> [rfl; split] <;> rfl
  | switchCase count selector =>
    have hc : count = 0 ∨ s.options.inertSelectors.contains selector :=
      Decidable.or_iff_not_imp_left.2 (by simpa [Options.chooses] using h)
    simp only [perform, if_pos hc]
  | animatedPart layer offset list =>
    simp only [perform]
    split <;> rfl
  | _ => rfl

lemma exec_of_not_isCase (hc : c.isCase = false) (p : Scope × Walk) :
    s.exec branch p c = .ok (s.perform p.1 p.2 c) := by
  have hp (sc : Scope) : sc.pass c = sc := by simp [Scope.pass, hc]
  rw [exec, hc]
  cases c with
  | branch layout link => cases hc
  | _ => exact congrArg (fun sc => Except.ok (sc, _)) (hp _)

lemma exec_withSwitch (hc : c.isCase = false) (h : s.options.chooses c = false) (sc : Scope)
    (w : Walk) (sw : Switch) :
    s.exec branch ({ sc with switch := sw }, w) c =
      (fun p => ({ p.1 with switch := sw }, p.2)) <$> s.exec branch (sc, w) c := by
  rw [exec_of_not_isCase hc, exec_of_not_isCase hc, perform_withSwitch h]
  rfl

lemma exec_of_closed (hc : c.isCase) (hsw : sw.isOpen = false) :
    s.exec branch ({ sc with switch := sw }, w) c = .ok ({ sc with switch := sw.advance }, w) := by
  simp [exec, Scope.pass, hc, hsw]

lemma exec_of_open (hb : branch.Blind) (hc : c.isCase) (hsw : sw.isOpen)
    (hidle : sc.switch = {}) :
    s.exec branch ({ sc with switch := sw }, w) c =
      (fun p => ({ p.1 with switch := sw.advance }, p.2)) <$> s.exec branch (sc, w) c := by
  have h : s.options.chooses c = false := by cases c <;> first | rfl | cases hc
  have ho : sc.switch.isOpen := by rw [hidle]; rfl
  have hv (sc : Scope) (w : Walk) :
      s.visit branch { sc with switch := sw } w c = s.visit branch sc w c :=
    visit_congr hb (by simp only [untag_branchNode]) w c
  rw [exec, exec, if_neg (by simp [hsw]), if_neg (by simp [ho])]
  simp only [perform_withSwitch h sc w sw, map_bind, map_pure, Scope.pass, hc, if_true]
  rw [hv]

lemma switch_perform (s : Setting) (sc : Scope) (w : Walk) (c : Command) :
    (s.perform sc w c).1.switch =
      if c.isCase then sc.switch else s.options.countCase sc.switch c := by
  cases c with
  | closeNode =>
    simp only [perform, Scope.closeNode]
    split <;> [rfl; split] <;> rfl
  | switchCase count selector =>
    rw [perform]
    split <;> rename_i h
    · have hc : s.options.chooses (.switchCase count selector) = false := by
        simpa [Options.chooses, Decidable.or_iff_not_imp_left] using h
      simp [Options.countCase, hc, Command.isCase]
    · have hc : s.options.chooses (.switchCase count selector) = true := by
        simpa [Options.chooses] using h
      simp [Options.countCase, hc, Command.isCase]
  | animatedPart layer offset list =>
    simp only [perform]
    split <;> rfl
  | move motion layer list => cases list <;> rfl
  | _ => rfl

lemma switch_of_exec {p q : Scope × Walk} (h : s.exec branch p c = .ok q) :
    q.1.switch = s.options.countCase p.1.switch c := by
  obtain ⟨hc, -, rfl⟩ | ⟨-, sc, w, w', hp, -, rfl⟩ := exec_cases h
  · simp [Scope.pass, Options.countCase, hc]
  · have hs := s.switch_perform p.1 p.2 c
    rw [hp] at hs
    cases hc : c.isCase <;> simp_all [Scope.pass, Options.countCase]

lemma switch_of_foldlM {p q : Scope × Walk} (h : cs.foldlM (s.exec branch) p = .ok q) :
    q.1.switch = cs.foldl s.options.countCase p.1.switch := by
  induction cs generalizing p with
  | nil =>
    obtain rfl : p = q := Except.ok.inj h
    rfl
  | cons c cs ih =>
    obtain ⟨p₁, h₁, h⟩ := ok_of_bind h
    rw [ih h, switch_of_exec h₁]
    rfl

lemma idle_of_exec {p q : Scope × Walk} (h : s.exec branch p c = .ok q)
    (hc : s.options.chooses c = false) (hidle : p.1.switch = {}) : q.1.switch = {} := by
  rw [switch_of_exec h, hidle]
  cases c with
  | switchCase count selector => simp [Options.countCase, hc, Command.isCase]
  | move motion layer list => cases list <;> rfl
  | _ => rfl

end Setting

def Agree (whole : Prop) (a b : Reached) : Prop := (·.2) <$> a = (·.2) <$> b ∧ (whole → a = b)

lemma Agree.of_eq {whole : Prop} {a b : Reached} (h : a = b) : Agree whole a b :=
  ⟨congrArg _ h, fun _ => h⟩

namespace Setting

variable {s : Setting} {branch : Branching} {sc : Scope} {w : Walk} {sw : Switch} {k : Nat}

lemma foldlM_dropCases (hs : 0 < sw.seen) (hk : sw.seen + (k + 1) = sw.expected)
    (hu : s.options.Undisturbed (k + 1) cs) (hidle : sc.switch = {}) :
    Agree (k + 1 ≤ cs.countP (·.isCase)) (cs.foldlM (s.exec branch) ({ sc with switch := sw }, w))
      ((dropCases (k + 1) cs).foldlM (s.exec branch) (sc, w)) := by
  -- On the left a case moves the switch and nothing else. Of other commands the switch sees nothing.
  induction cs generalizing k sc w sw with
  | nil => exact ⟨rfl, fun h => absurd h (by simp)⟩
  | cons c cs ih =>
    have hc := hu.head k.succ_pos
    have hu := hu.tail
    cases hcase : c.isCase with
    | true =>
      have hclosed : sw.isOpen = false := by simp [Switch.isOpen]; omega
      rw [List.foldlM_cons, exec_of_closed hcase hclosed, dropCases, if_pos hcase]
      cases k with
      | zero =>
        have ha : sw.advance = sc.switch := by
          rw [hidle, Switch.advance, if_neg (by simp; omega)]
        exact .of_eq (by rw [ha, dropCases]; rfl)
      | succ k =>
        have ha : sw.advance = { sw with seen := sw.seen + 1 } := by
          rw [Switch.advance, if_pos (by simp [Switch.active]; omega)]
        rw [List.countP_cons_of_pos hcase, ha, Nat.add_le_add_iff_right]
        rw [hcase] at hu
        have hseen : 0 < ({ sw with seen := sw.seen + 1 } : Switch).seen := Nat.succ_pos _
        exact ih hseen (by simp; omega) hu hidle
    | false =>
      have hn : ¬ c.isCase = true := by simp [hcase]
      rw [dropCases, if_neg hn, List.foldlM_cons, List.foldlM_cons, exec_withSwitch hcase hc,
        List.countP_cons_of_neg hn]
      rw [hcase] at hu
      cases h : s.exec branch (sc, w) c with
      | error e => exact .of_eq rfl
      | ok p => exact ih hs hk hu (idle_of_exec h hc hidle)

lemma foldlM_keepFirstCase (hb : branch.Blind) {n : Nat} (hn : 0 < n)
    (hu : s.options.Undisturbed n cs) (hidle : sc.switch = {}) :
    Agree (n ≤ cs.countP (·.isCase))
      (cs.foldlM (s.exec branch) ({ sc with switch := { expected := n } }, w))
      ((keepFirstCase n cs).foldlM (s.exec branch) (sc, w)) := by
  induction cs generalizing sc w with
  | nil => exact ⟨rfl, fun h => absurd h (by simp; omega)⟩
  | cons c cs ih =>
    have hc := hu.head hn
    have hu := hu.tail
    cases hcase : c.isCase with
    | true =>
      rw [keepFirstCase, if_pos hcase, List.foldlM_cons, List.foldlM_cons,
        exec_of_open hb hcase (by simp [Switch.isOpen]) hidle, List.countP_cons_of_pos hcase]
      rw [hcase] at hu
      cases h : s.exec branch (sc, w) c with
      | error e => exact .of_eq rfl
      | ok p =>
        have hp := idle_of_exec h hc hidle
        obtain ⟨k, rfl⟩ : ∃ k, n = k + 1 := ⟨n - 1, by omega⟩
        cases k with
        | zero =>
          have ha : ({ expected := 0 + 1 } : Switch).advance = p.1.switch := by
            rw [hp]
            rfl
          exact .of_eq (by rw [ha, Nat.add_sub_cancel, dropCases]; rfl)
        | succ k =>
          have ha : ({ expected := k + 1 + 1 } : Switch).advance =
              { expected := k + 1 + 1, seen := 1 } := by
            rw [Switch.advance, if_pos (by simp [Switch.active])]
          rw [ha, Nat.add_le_add_iff_right]
          exact foldlM_dropCases (w := p.2) Nat.one_pos (by simp; omega) hu hp
    | false =>
      have hneg : ¬ c.isCase = true := by simp [hcase]
      rw [keepFirstCase, if_neg hneg, List.foldlM_cons, List.foldlM_cons, exec_withSwitch hcase hc,
        List.countP_cons_of_neg hneg]
      rw [hcase] at hu
      cases h : s.exec branch (sc, w) c with
      | error e => exact .of_eq rfl
      | ok p => exact ih hu (idle_of_exec h hc hidle)

variable {pre rest : List Command} {count : UInt32} {selector : String}

lemma exec_switchCase (hc : s.options.chooses (.switchCase count selector)) (p : Scope × Walk) :
    s.exec branch p (.switchCase count selector) =
      .ok ({ p.1 with switch := { expected := count.toNat } }, p.2) := by
  have hn : ¬ (count = 0 ∨ s.options.inertSelectors.contains selector) := by
    simpa [Options.chooses] using hc
  rw [exec_of_not_isCase rfl, perform, if_neg hn]

lemma runLines_resolve (hb : branch.Blind) {old new : List Line}
    (hold : Decodes old (pre ++ .switchCase count selector :: rest))
    (hnew : Decodes new (pre ++ keepFirstCase count.toNat rest))
    (hidle : (s.options.switchAfter pre).active = false)
    (hc : s.options.chooses (.switchCase count selector))
    (hu : s.options.Undisturbed count.toNat rest) (name : String) (node : Node) (w : Walk) :
    s.runLines branch name 0 new (.enter node) w =
      s.runLines branch name 0 old (.enter node) w := by
  have hrun {lines : List Line} {cs : List Command} (h : Decodes lines cs) :
      s.runLines branch name 0 lines (.enter node) w =
        (·.2) <$> cs.foldlM (s.exec branch) (.enter node, w) := by
    rw [← steps_of_decodes h, ← bind_pure_comp]
    exact runLines_eq_steps branch name 0 lines (.enter node, w)
  rw [hrun hold, hrun hnew, List.foldlM_append, List.foldlM_append]
  cases hp : pre.foldlM (s.exec branch) (.enter node, w) with
  | error e => rfl
  | ok p =>
    have hs : p.1.switch = {} :=
      (switch_of_foldlM hp).trans (Options.switchAfter_of_not_active hidle)
    have h := (foldlM_keepFirstCase (w := p.2) hb (toNat_of_chooses hc) hu hs).1
    change _ = _ <$> (s.exec branch p (.switchCase count selector) >>= rest.foldlM (s.exec branch))
    rw [exec_switchCase hc]
    exact h.symm

end Setting

lemma keepFirstCase_append {n : Nat} {mid tail : List Command}
    (h : n ≤ mid.countP (·.isCase)) (hn : 0 < n) :
    keepFirstCase n (mid ++ tail) = keepFirstCase n mid ++ tail := by
  have hdrop (mid : List Command) (k : Nat) (h : k ≤ mid.countP (·.isCase)) :
      dropCases k (mid ++ tail) = dropCases k mid ++ tail := by
    induction mid generalizing k with
    | nil =>
      obtain rfl : k = 0 := by simpa using h
      simp [dropCases]
    | cons c mid ih =>
      cases k with
      | zero => simp [dropCases]
      | succ k =>
        rw [List.cons_append, dropCases, dropCases]
        split <;> rename_i hc
        · exact ih k (by simpa [hc] using h)
        · rw [ih (k + 1) (by simpa [hc] using h), List.cons_append]
  induction mid with
  | nil => exact absurd h (by simp; omega)
  | cons c mid ih =>
    rw [List.cons_append, keepFirstCase, keepFirstCase]
    split <;> rename_i hc
    · rw [hdrop _ _ (by simp [hc] at h; omega), List.cons_append]
    · rw [ih (by simpa [hc] using h), List.cons_append]

lemma runRoot_resolve {lookup lookup' : Lookup} {options : Options} {name : String}
    {old new : List Line} {pre rest : List Command} {count : UInt32} {selector : String}
    (hold : scripts lookup name = .ok old) (hnew : scripts lookup' name = .ok new)
    (hother : ∀ other, other ≠ name → scripts lookup' other = scripts lookup other)
    (hdo : Decodes old (pre ++ .switchCase count selector :: rest))
    (hdn : Decodes new (pre ++ keepFirstCase count.toNat rest))
    (hidle : (options.switchAfter pre).active = false)
    (hc : options.chooses (.switchCase count selector))
    (hu : options.Undisturbed count.toNat rest) (root : String) (playhead : Option Playhead) :
    runRoot (settingOf lookup' options root) root playhead =
      runRoot (settingOf lookup options root) root playhead := by
  have hrun (room : Nat) (path : List String) (node : Node) (w : Walk) :=
    (settingOf lookup options root).runLines_resolve
      ((settingOf lookup options root).blind_branching room path) hdo hdn hidle hc hu name node w
  exact Setting.runRoot_withScripts (s := settingOf lookup options root)
    (Setting.replaced_of_eq hold hnew hother hrun (.refl _)) root playhead

/--
A switch can be resolved: without it and the cases after its first, each root is flattened in the
same way. All commands after its last case start with the same node, stack and walk.
-/
theorem interpret_resolve {lookup lookup' : Lookup} {animation : Option Animation}
    {options : Options} {root name : String} {old new : List Line} {pre rest : List Command}
    {count : UInt32} {selector : String} (hold : scripts lookup name = .ok old)
    (hnew : scripts lookup' name = .ok new)
    (hother : ∀ other, other ≠ name → scripts lookup' other = scripts lookup other)
    (hdo : Decodes old (pre ++ .switchCase count selector :: rest))
    (hdn : Decodes new (pre ++ keepFirstCase count.toNat rest))
    (hidle : (options.switchAfter pre).active = false)
    (hcount : 1 ≤ count) (hselector : options.inertSelectors.contains selector = false)
    (hu : options.Undisturbed count.toNat rest) :
    interpret lookup' animation options root = interpret lookup animation options root ∧
      (∀ playhead, runRoot (settingOf lookup' options root) root playhead =
        runRoot (settingOf lookup options root) root playhead) ∧
      ∀ mid tail, rest = mid ++ tail → count.toNat ≤ mid.countP (·.isCase) →
        keepFirstCase count.toNat rest = keepFirstCase count.toNat mid ++ tail ∧
        ∀ (s : Setting) room path sc w, s.options = options → sc.switch = {} →
          (keepFirstCase count.toNat mid).foldlM (s.exec (s.branching room path)) (sc, w) =
            (.switchCase count selector :: mid).foldlM (s.exec (s.branching room path))
              (sc, w) := by
  have hc : options.chooses (.switchCase count selector) := by
    have h0 : count ≠ 0 := by
      rintro rfl
      exact absurd hcount (by decide)
    simp [Options.chooses, h0, hselector]
  have hn := toNat_of_chooses hc
  have hrun := runRoot_resolve hold hnew hother hdo hdn hidle hc hu root
  refine ⟨?_, hrun, ?_⟩
  · rw [interpret_eq, interpret_eq, hrun]
  · rintro mid tail rfl hm
    refine ⟨keepFirstCase_append hm hn, ?_⟩
    rintro s room path sc w rfl hsc
    have h := Setting.foldlM_keepFirstCase (w := w) (s.blind_branching room path) hn hu.left hsc
    rw [List.foldlM_cons, Setting.exec_switchCase hc]
    exact (h.2 hm).symm

def eyes (lines : List String) : Sources :=
  .insert { layouts := .ofList [("closed", ["GEO_SWITCH_CASE(2, b)",
    "GEO_DISPLAY_LIST(LAYER_ALPHA, lid)", "GEO_BRANCH(1, open)"])] } .layout "root" lines

theorem interpret_resolve_eyes :
    interpret (eyes ["GEO_OPEN_NODE()", "GEO_BRANCH(1, closed)", "GEO_CLOSE_NODE()",
        "GEO_BRANCH(1, mouth)"]).lookup none {} "root" =
      interpret (eyes ["GEO_SWITCH_CASE(2, s)", "GEO_OPEN_NODE()", "GEO_BRANCH(1, closed)",
        "GEO_BRANCH(1, open)", "GEO_CLOSE_NODE()",
        "GEO_BRANCH(1, mouth)"]).lookup none {} "root" := by
  let rest : List Command :=
    [.openNode, .branch "closed" true, .branch "open" true, .closeNode, .branch "mouth" true]
  have hold : Decodes (["GEO_SWITCH_CASE(2, s)", "GEO_OPEN_NODE()", "GEO_BRANCH(1, closed)",
      "GEO_BRANCH(1, open)", "GEO_CLOSE_NODE()", "GEO_BRANCH(1, mouth)"].map decodeLine)
      ([] ++ .switchCase 2 "s" :: rest) :=
    ⟨(.switchCase 2 "s" :: rest).map some, by decide +kernel, rfl⟩
  have hnew : Decodes (["GEO_OPEN_NODE()", "GEO_BRANCH(1, closed)", "GEO_CLOSE_NODE()",
      "GEO_BRANCH(1, mouth)"].map decodeLine) ([] ++ keepFirstCase 2 rest) :=
    ⟨(keepFirstCase 2 rest).map some, by decide +kernel, rfl⟩
  have hroot (lines : List String) :
      scripts (eyes lines).lookup "root" = .ok (lines.map decodeLine) :=
    (scripts_insert _ _ _ _).trans (if_pos rfl)
  have hother (lines lines' : List String) (other : String) (h : other ≠ "root") :
      scripts (eyes lines').lookup other = scripts (eyes lines).lookup other := by
    rw [eyes, eyes, scripts_insert, scripts_insert, if_neg h.symm, if_neg h.symm]
  have hrest : ∀ c ∈ rest, Options.chooses {} c = false := by decide
  have hu : Options.Undisturbed {} 2 rest := fun mid c tail he _ => hrest c (he ▸ by simp)
  exact (interpret_resolve (hroot _) (hroot _) (hother _ _) hold hnew rfl (by decide) (by decide)
    hu).1

end SceneDraw.Layout
