import SceneDraw.Proofs.Layout.Nesting
import SceneDraw.Proofs.Layout.Switch

/-! A branch can be written out in place: between an open and a close command, the lines of the
layout that it branches to do the same. They then run on top of the saved nodes of the layout that
branches, and inside one layout less. A run that is not stopped shows neither. -/

namespace SceneDraw.Layout

def Scope.over (below : List Node) (sc : Scope) : Scope := { sc with stack := sc.stack ++ below }

namespace Setting

variable {s : Setting} {branch branch' : Branching} {name layout : String} {line room : Nat}
  {path : List String} {p q : Scope × Walk} {c : Command} {sc : Scope} {w : Walk}
  {lines body : List Line} {below : List Node}

lemma perform_over (ha : s.asymmetric = false) (hc : c = .closeNode → sc.stack ≠ []) (w : Walk) :
    s.perform (sc.over below) w c = ((s.perform sc w c).1.over below, (s.perform sc w c).2) := by
  cases c with
  | closeNode =>
    obtain ⟨n, rest, hs⟩ := List.exists_cons_of_ne_nil (hc rfl)
    simp [perform, Scope.closeNode, Scope.over, hs, ha]
  | switchCase count selector =>
    simp only [perform]
    split <;> rfl
  | animatedPart layer offset list =>
    have hv : (sc.over below).node.visible = sc.node.visible := rfl
    rw [perform, perform, hv]
    split <;> rfl
  | _ => rfl

lemma exec_over (ha : s.asymmetric = false) (hc : c = .closeNode → sc.stack ≠ []) :
    s.exec branch (sc.over below, w) c =
      (fun p => (p.1.over below, p.2)) <$> s.exec branch (sc, w) c := by
  have hv (sc : Scope) (w : Walk) :
      s.visit branch (sc.over below) w c = s.visit branch sc w c := by
    cases c <;> rfl
  exact exec_map (Scope.over below) (fun _ _ => rfl) (perform_over ha hc w) hv

lemma steps_over (ha : s.asymmetric = false) {saved base : List Node}
    (hc : Covered saved.length (decoded lines)) (hs : p.1.stack = saved ++ base) :
    s.steps branch name line lines (p.1.over below, p.2) =
      (fun p => (p.1.over below, p.2)) <$> s.steps branch name line lines p := by
  induction lines generalizing line p saved with
  | nil => rfl
  | cons l rest ih =>
    rcases l with e | _ | c
    · rfl
    · exact ih hc hs
    · obtain ⟨hx, saved₁, hs₁, hc₁, -⟩ := Covered.step (c := c) hc hs
      rw [steps, steps, exec_over ha hx, map_bind, bind_map_left]
      cases h : s.exec branch p c with
      | error e => rfl
      | ok p₁ => exact ih hc₁ ((stack_of_exec h).trans hs₁)

lemma decodes_of_steps (h : s.steps branch name line lines p = .ok q) :
    Decodes lines (decoded lines) := by
  induction lines generalizing line p with
  | nil => exact ⟨[], rfl, rfl⟩
  | cons l rest ih =>
    rcases l with e | _ | c
    · cases h
    · obtain ⟨found, rfl, hd⟩ := ih h
      exact ⟨none :: found, rfl, hd⟩
    · obtain ⟨_, -, h⟩ := ok_of_bind h
      obtain ⟨found, rfl, hd⟩ := ih h
      exact ⟨some c :: found, rfl, congrArg (c :: ·) hd⟩

lemma idle_of_steps (h : s.steps branch name line lines p = .ok q) (hp : p.1.switch = {})
    (hidle : (s.options.switchAfter (decoded lines)).active = false) : q.1.switch = {} := by
  rw [steps_of_decodes (decodes_of_steps h)] at h
  rw [switch_of_foldlM h, hp]
  exact Options.switchAfter_of_not_active hidle

lemma refines_bracket (ha : s.asymmetric = false) (hn : Nested (decoded body))
    (hidle : (s.options.switchAfter (decoded body)).active = false) (hp : p.1.switch = {}) :
    Refines ((p.1, ·) <$> s.runLines branch layout 0 body (.enter p.1.node) p.2)
      (s.steps branch name line (bracket body) p) := by
  rw [runLines_eq_steps branch layout 0 body (.enter p.1.node, p.2), map_bind]
  intro r hr
  obtain ⟨q, hq, hr⟩ := ok_of_bind hr
  obtain rfl := Except.ok.inj hr
  have hq' : s.steps branch name (line + 1) body (.enter p.1.node, p.2) = .ok q :=
    steps_mono (.refl branch) _ _ _ hq
  have hover : (p.1.openNode, p.2) = ((Scope.enter p.1.node).over p.1.stack, p.2) := by
    rw [Scope.over, Scope.enter, Scope.openNode, hp]
    rfl
  have hopen : s.steps branch name (line + 1) body (p.1.openNode, p.2) =
      .ok (q.1.over p.1.stack, q.2) := by
    have hc : Covered ([] : List Node).length (decoded body) := hn.covered
    have henter : (Scope.enter p.1.node).stack = [] ++ [p.1.node] := rfl
    rw [hover, steps_over (p := (Scope.enter p.1.node, p.2)) ha hc henter, hq']
    rfl
  have hstack : q.1.stack = [p.1.node] := stack_of_nested hq hn
  have hswitch : q.1.switch = p.1.switch := (idle_of_steps hq rfl hidle).trans hp.symm
  have hclose : (q.1.over p.1.stack).closeNode s.asymmetric = p.1 := by
    simp [Scope.closeNode, Scope.over, hstack, hswitch, ha]
  change s.steps branch name (line + 1) (body ++ [.ok (some .closeNode)]) (p.1.openNode, p.2) = _
  rw [steps_append, hopen]
  exact congrArg (fun sc => Except.ok (sc, q.2)) hclose

lemma exec_branch (hnull : s.isNull layout = false) (link : Bool) (hp : p.1.switch = {}) :
    s.exec branch p (.branch layout link) = (p.1, ·) <$> branch layout p.1.node p.2 := by
  have hbranch : p.1.branchNode = p.1.node := by rw [Scope.branchNode, hp]; rfl
  have hpass : p.1.pass (.branch layout link) = p.1 := by
    rw [Scope.pass, if_pos (by rfl), hp]
    exact congrArg (fun sw => { p.1 with switch := sw }) hp.symm
  rw [exec, if_neg (by simp [hp, Switch.isOpen]), perform]
  simp only [visit, hnull, hbranch, hpass, bind_pure_comp]
  rfl

lemma refines_branch (ha : s.asymmetric = false) (hbody : s.script layout = .ok body)
    (hnull : s.isNull layout = false) (hn : Nested (decoded body))
    (hidle : (s.options.switchAfter (decoded body)).active = false) (link : Bool)
    (hp : p.1.switch = {}) (hb : (s.branching room path).Refines branch') :
    Refines (s.exec (s.branching room path) p (.branch layout link))
      (s.steps branch' name line (bracket body) p) := by
  rw [exec_branch hnull link hp]
  cases room with
  | zero =>
    rw [branching_zero path hbody]
    exact .of_error _
  | succ room =>
    rw [branching_succ room path hbody]
    split
    · exact .of_error _
    · -- In place, the lines of the layout have the room of the branch itself, and a shorter path.
      have hmono : (s.branching room (layout :: path)).Refines branch' := fun _ _ _ =>
        .trans (branching_mono room.le_succ (List.subset_cons_self _ _) _ _ _) (hb _ _ _)
      exact .trans (b := s.steps (s.branching room (layout :: path)) name line (bracket body) p)
        (refines_bracket ha hn hidle hp) (steps_mono hmono _ _)

lemma improves_inline {pre post : List Line} (ha : s.asymmetric = false)
    (hbody : s.script layout = .ok body) (hnull : s.isNull layout = false)
    (hpre : (s.options.switchAfter (decoded pre)).active = false) (hn : Nested (decoded body))
    (hidle : (s.options.switchAfter (decoded body)).active = false) (link : Bool) (name : String) :
    s.Improves name (pre ++ .ok (some (.branch layout link)) :: post)
      (pre ++ bracket body ++ post) := by
  intro room path branch' node w hb
  apply runLines_mono
  rw [steps_append, List.append_assoc, steps_append]
  refine .bind (steps_mono hb _ _) fun p hp => ?_
  rw [steps_append]
  exact .bind (refines_branch ha hbody hnull hn hidle link (idle_of_steps hp rfl hpre) hb)
    fun _ _ => steps_mono hb _ _

end Setting

theorem interpret_inline {lookup lookup' : Lookup} {animation : Option Animation}
    {options : Options} {root name layout : String} {link : Bool} {pre post body : List Line}
    {placements : List Placement} (hroot : options.asymmetricLayouts.contains root = false)
    (hold : scripts lookup name = .ok (pre ++ .ok (some (.branch layout link)) :: post))
    (hnew : scripts lookup' name = .ok (pre ++ bracket body ++ post))
    (hother : ∀ other, other ≠ name → scripts lookup' other = scripts lookup other)
    (hbody : scripts lookup layout = .ok body) (hnull : layout ≠ options.nullName)
    (hpre : (options.switchAfter (decoded pre)).active = false) (hn : Nested (decoded body))
    (hidle : (options.switchAfter (decoded body)).active = false)
    (hok : (interpret lookup animation options root).1 = .ok placements) :
    interpret lookup' animation options root = interpret lookup animation options root ∧
      let s := settingOf lookup options root
      ∀ room path line p q, p.1.switch = {} →
        s.exec (s.branching room path) p (.branch layout link) = .ok q →
        q.1 = p.1 ∧ s.steps (s.branching room path) name line (bracket body) p = .ok q := by
  have hnull' : (settingOf lookup options root).isNull layout = false := beq_false_of_ne hnull
  have himproves : (settingOf lookup options root).Improves name
      (pre ++ .ok (some (.branch layout link)) :: post) (pre ++ bracket body ++ post) :=
    Setting.improves_inline hroot hbody hnull' hpre hn hidle link name
  refine ⟨interpret_of_refines (Setting.runRoot_refines (s := settingOf lookup options root)
    (Setting.replaced_of_eq hold hnew hother himproves (.refl _)) root) hok, ?_⟩
  intro s room path line p q hp hq
  refine ⟨?_, Setting.refines_branch hroot hbody hnull' hn hidle link hp (.refl _) q hq⟩
  rw [Setting.exec_branch hnull' link hp] at hq
  obtain ⟨w, -, hq⟩ := ok_of_bind hq
  exact (Except.ok.inj hq) ▸ rfl

def puppet (lines : List String) : Sources :=
  .insert { layouts := .ofList [("arm", ["GEO_ZBUFFER(0)", "GEO_OPEN_NODE()",
    "GEO_DISPLAY_LIST(LAYER_ALPHA, hand)", "GEO_CLOSE_NODE()"])] } .layout "root" lines

theorem interpret_inline_puppet :
    interpret (puppet ["GEO_OPEN_NODE()", "GEO_ZBUFFER(0)", "GEO_OPEN_NODE()",
        "GEO_DISPLAY_LIST(LAYER_ALPHA, hand)", "GEO_CLOSE_NODE()", "GEO_CLOSE_NODE()",
        "GEO_DISPLAY_LIST(LAYER_ALPHA, body)"]).lookup none {} "root" =
      interpret (puppet ["GEO_BRANCH(1, arm)",
        "GEO_DISPLAY_LIST(LAYER_ALPHA, body)"]).lookup none {} "root" := by
  let body : List Command := [.zBuffer false, .openNode, .displayList .alpha "hand", .closeNode]
  let post : List Line := [.ok (some (.displayList .alpha "body"))]
  have hroot (lines : List String) :
      scripts (puppet lines).lookup "root" = .ok (lines.map decodeLine) :=
    (scripts_insert _ _ _ _).trans (if_pos rfl)
  have hother (lines lines' : List String) (other : String) (h : other ≠ "root") :
      scripts (puppet lines').lookup other = scripts (puppet lines).lookup other := by
    rw [puppet, puppet, scripts_insert, scripts_insert, if_neg h.symm, if_neg h.symm]
  have hold : ["GEO_BRANCH(1, arm)", "GEO_DISPLAY_LIST(LAYER_ALPHA, body)"].map decodeLine =
      [] ++ .ok (some (.branch "arm" true)) :: post := by decide +kernel
  have hnew : ["GEO_OPEN_NODE()", "GEO_ZBUFFER(0)", "GEO_OPEN_NODE()",
      "GEO_DISPLAY_LIST(LAYER_ALPHA, hand)", "GEO_CLOSE_NODE()", "GEO_CLOSE_NODE()",
      "GEO_DISPLAY_LIST(LAYER_ALPHA, body)"].map decodeLine =
      [] ++ bracket (body.map (.ok ∘ some)) ++ post := by decide +kernel
  have hbody (lines : List String) :
      scripts (puppet lines).lookup "arm" = .ok (body.map (.ok ∘ some)) := by
    rw [puppet, scripts_insert, if_neg (by decide)]
    exact congrArg Except.ok (by decide +kernel)
  have hnested : Nested body :=
    .append (nested_singleton (c := .zBuffer false) (by decide) (by decide))
      (.bracket (nested_singleton (c := .displayList .alpha "hand") (by decide) (by decide)))
  have hrun : (interpret (puppet ["GEO_BRANCH(1, arm)",
      "GEO_DISPLAY_LIST(LAYER_ALPHA, body)"]).lookup none {} "root").1.isOk := by decide +kernel
  cases hok : (interpret (puppet ["GEO_BRANCH(1, arm)",
    "GEO_DISPLAY_LIST(LAYER_ALPHA, body)"]).lookup none {} "root").1 with
  | error e => simp [hok, Except.isOk, Except.toBool] at hrun
  | ok placements =>
    exact (interpret_inline (by decide) (hold ▸ hroot _) (hnew ▸ hroot _) (hother _ _) (hbody _)
      (by decide) rfl hnested rfl hok).1

end SceneDraw.Layout
