import SceneDraw.Proofs.Layout.Cycle
import SceneDraw.Proofs.Layout.Inline
import SceneDraw.Proofs.Layout.Joints

namespace SceneDraw.Layout

def Command.bringsNear : Command → Bool
  | renderRange near _ => near < 0
  | _ => false

def Scope.Dark (sc : Scope) : Prop := ∀ n ∈ sc.node :: sc.stack, n.visible = false

def Walk.relog (w : Walk) (log : Log) : Walk := { w with log }

namespace Setting

def StaysFar (s : Setting) (layout : String) : Prop :=
  ∀ target, Relation.ReflTransGen s.Branches layout target → ∀ script,
    s.script target = .ok script → ∀ c ∈ decoded script, c.bringsNear = false

def FarOnly (s : Setting) (cs : List Command) : Prop :=
  ∀ c ∈ cs, c.bringsNear = false ∧
    ∀ layout link, c = .branch layout link → s.isNull layout = false → s.StaysFar layout

def Hides (s : Setting) (branch : Branching) : Prop :=
  ∀ layout node w w', s.StaysFar layout → node.visible = false →
    branch layout node w = .ok w' → ∃ log, w' = w.relog log

variable {s : Setting} {branch : Branching} {name layout : String} {line : Nat}
  {p q : Scope × Walk} {c : Command} {cs : List Command} {script : List Line}

lemma mem_decoded : c ∈ decoded script ↔ .ok (some c) ∈ script := by
  rw [decoded, List.mem_filterMap]
  constructor
  · rintro ⟨e | _ | d, hd, h⟩
    · cases h
    · cases h
    · exact Option.some.inj h ▸ hd
  · exact fun h => ⟨_, h, rfl⟩

lemma StaysFar.farOnly (h : s.StaysFar layout) (hs : s.script layout = .ok script) :
    s.FarOnly (decoded script) := by
  refine fun c hc => ⟨h layout .refl script hs c hc, ?_⟩
  rintro child link rfl hnull target ht
  exact h target (.head ⟨hnull, script, link, hs, mem_decoded.1 hc⟩ ht)

lemma visible_move (n : Node) (motion : Motion) : (n.move motion).visible = n.visible := by
  cases motion <;> rfl

lemma visible_branchNode (sc : Scope) : sc.branchNode.visible = sc.node.visible := by
  rw [Scope.branchNode]
  split <;> rfl

lemma place_of_not_visible {node : Node} (h : node.visible = false) (s : Setting) (w : Walk)
    (layer : DrawLayer) (list : String) (transform : Matrix) :
    s.place w node layer list transform = w :=
  if_pos (by simp [h])

lemma visible_head? {node : Node} {stack : List Node} (hn : node.visible = false)
    (h : ∀ n ∈ stack, n.visible = false) : (stack.head?.getD node).visible = false := by
  cases stack with
  | nil => exact hn
  | cons top stack => exact h top List.mem_cons_self

lemma perform_dark {sc : Scope} (h : sc.Dark) (hc : c.bringsNear = false) (w : Walk) :
    (s.perform sc w c).1.Dark ∧ (s.perform sc w c).2 = w := by
  obtain ⟨hnode, hstack⟩ := List.forall_mem_cons.1 h
  have hwith {node : Node} (hn : node.visible = false) : Scope.Dark { sc with node } :=
    List.forall_mem_cons.2 ⟨hn, hstack⟩
  cases c with
  | inert | branch => exact ⟨h, rfl⟩
  | openNode => exact ⟨List.forall_mem_cons.2 ⟨hnode, h⟩, rfl⟩
  | closeNode =>
    refine ⟨?_, rfl⟩
    rw [perform, Scope.closeNode]
    cases hs : sc.stack with
    | nil => exact h
    | cons top stack =>
      rw [hs] at hstack
      obtain ⟨htop, hstack⟩ := List.forall_mem_cons.1 hstack
      dsimp only
      split_ifs
      · exact List.forall_mem_cons.2 ⟨visible_head? hnode hstack, hstack⟩
      · exact List.forall_mem_cons.2 ⟨htop, hstack⟩
  | zBuffer | billboard => exact ⟨hwith hnode, rfl⟩
  | renderRange near far =>
    have hnear : ¬ near < 0 := by simpa [Command.bringsNear] using hc
    refine ⟨hwith ?_, rfl⟩
    simp [Node.visible, hnear]
  | switchCase count selector =>
    rw [perform]
    split <;> exact ⟨h, rfl⟩
  | move motion layer list =>
    have hmove : (sc.node.move motion).visible = false := (visible_move _ _).trans hnode
    refine ⟨hwith hmove, ?_⟩
    cases list with
    | none => rfl
    | some list => exact place_of_not_visible hmove ..
  | animatedPart layer offset list =>
    rw [perform, if_neg (by simp [hnode])]
    exact ⟨h, rfl⟩
  | displayList layer list => exact ⟨h, place_of_not_visible hnode ..⟩

lemma exec_dark (hb : s.Hides branch) (hc : s.FarOnly [c]) (hp : p.1.Dark)
    (h : s.exec branch p c = .ok q) : q.1.Dark ∧ ∃ log, q.2 = p.2.relog log := by
  obtain ⟨hfar, hbranch⟩ := hc c (List.mem_singleton_self c)
  have hpass {sc : Scope} (hd : sc.Dark) : (sc.pass c).Dark := by
    rw [Scope.pass]
    split_ifs <;> exact hd
  obtain ⟨-, -, rfl⟩ | ⟨-, sc, w, w', hperform, hv, rfl⟩ := exec_cases h
  · exact ⟨hpass hp, p.2.log, rfl⟩
  obtain ⟨hd, hw⟩ := perform_dark (s := s) hp hfar p.2
  rw [hperform] at hd hw
  obtain rfl : w = p.2 := hw
  have hsame {w' : Walk} (h : (.ok p.2 : Outcome) = .ok w') : ∃ log, w' = p.2.relog log :=
    ⟨p.2.log, (Except.ok.inj h).symm⟩
  refine ⟨hpass hd, ?_⟩
  cases c with
  | branch layout link =>
    rw [visit] at hv
    split_ifs at hv with hnull
    · exact hsame hv
    · have hnode : sc.branchNode.visible = false :=
        (visible_branchNode sc).trans (List.forall_mem_cons.1 hd).1
      exact hb layout _ _ _ (hbranch layout link rfl (by simpa using hnull)) hnode hv
  | _ => exact hsame hv

lemma foldlM_dark (hb : s.Hides branch) (hc : s.FarOnly cs) (hp : p.1.Dark)
    (h : cs.foldlM (s.exec branch) p = .ok q) : q.1.Dark ∧ ∃ log, q.2 = p.2.relog log := by
  induction cs generalizing p with
  | nil =>
    obtain rfl : p = q := Except.ok.inj h
    exact ⟨hp, p.2.log, rfl⟩
  | cons c cs ih =>
    obtain ⟨hc, hcs⟩ := List.forall_mem_cons.1 hc
    obtain ⟨p₁, h₁, h⟩ := ok_of_bind h
    obtain ⟨hd, log, hw⟩ := exec_dark hb (List.forall_mem_singleton.2 hc) hp h₁
    obtain ⟨hd', log', hw'⟩ := ih hcs hd h
    exact ⟨hd', log', hw'.trans (congrArg (·.relog log') hw)⟩

lemma hides_branching (s : Setting) (room : Nat) (path : List String) :
    s.Hides (s.branching room path) := by
  induction room generalizing path with
  | zero =>
    intro layout node w w' hl hn h
    cases hs : s.script layout with
    | error e => exact branching_of_missing hs h
    | ok script =>
      rw [branching_zero path hs] at h
      cases h
  | succ room ih =>
    intro layout node w w' hl hn h
    cases hs : s.script layout with
    | error e => exact branching_of_missing hs h
    | ok script =>
      rw [branching_succ room path hs] at h
      split_ifs at h with hmem
      · cases h
      · rw [runLines_eq_steps _ layout 0 script (.enter node, w)] at h
        obtain ⟨q, hq, h⟩ := ok_of_bind h
        obtain rfl := Except.ok.inj h
        rw [steps_of_decodes (decodes_of_steps hq)] at hq
        have hdark : (Scope.enter node).Dark := by simpa [Scope.Dark, Scope.enter] using hn
        exact (foldlM_dark (ih _) (hl.farOnly hs) hdark hq).2

end Setting

inductive Alike {α : Type} (relog : α → Log → α) :
    Except (Stopped Error) α → Except (Stopped Error) α → Prop
  | ok (a : α) (log : Log) : Alike relog (.ok a) (.ok (relog a log))
  | error (e : Error) (log log' : Log) : Alike relog (.error ⟨e, log⟩) (.error ⟨e, log'⟩)

lemma Alike.bind {α β : Type} {relog : α → Log → α} {relog' : β → Log → β}
    {a b : Except (Stopped Error) α} {f : α → Except (Stopped Error) β} (h : Alike relog a b)
    (hf : ∀ x log, Alike relog' (f x) (f (relog x log))) : Alike relog' (a >>= f) (b >>= f) := by
  cases h with
  | ok a log => exact hf a log
  | error e log log' => exact .error e log log'

def Branching.Unlogged (branch : Branching) : Prop :=
  ∀ layout node w log, Alike .relog (branch layout node w) (branch layout node (w.relog log))

def relogged (p : Scope × Walk) (log : Log) : Scope × Walk := (p.1, p.2.relog log)

lemma Walk.nextJoint_relog (w : Walk) (log : Log) (offset : Vec3 Float32) :
    (w.relog log).nextJoint offset =
      ((w.nextJoint offset).1, (w.nextJoint offset).2.relog log) := by
  cases hp : w.playhead <;> simp [nextJoint, relog, hp]

namespace Setting

variable {s : Setting} {branch : Branching} {name : String} {line : Nat}

lemma place_relog (s : Setting) (w : Walk) (log : Log) (node : Node) (layer : DrawLayer)
    (list : String) (transform : Matrix) :
    s.place (w.relog log) node layer list transform =
      (s.place w node layer list transform).relog log := by
  rw [place, place]
  split <;> rfl

lemma perform_relog (s : Setting) (sc : Scope) (w : Walk) (log : Log) (c : Command) :
    s.perform sc (w.relog log) c = relogged (s.perform sc w c) log := by
  cases c with
  | switchCase count selector =>
    rw [perform, perform]
    split <;> rfl
  | move motion layer list =>
    cases list with
    | none => rfl
    | some list => exact congrArg (_, ·) (place_relog ..)
  | animatedPart layer offset list =>
    rw [perform, perform]
    split
    · simp only [Walk.nextJoint_relog, place_relog]
      rfl
    · rfl
  | displayList layer list => exact congrArg (_, ·) (place_relog ..)
  | _ => rfl

lemma visit_relog (hb : branch.Unlogged) (sc : Scope) (w : Walk) (log : Log) (c : Command) :
    Alike .relog (s.visit branch sc w c) (s.visit branch sc (w.relog log) c) := by
  cases c with
  | branch layout link =>
    rw [visit, visit]
    split
    · exact .ok w log
    · exact hb _ _ _ _
  | _ => exact .ok w log

lemma exec_relog (hb : branch.Unlogged) (p : Scope × Walk) (log : Log) (c : Command) :
    Alike relogged (s.exec branch p c) (s.exec branch (relogged p log) c) := by
  rw [exec, exec]
  simp only [relogged, perform_relog]
  split
  · exact .ok (p.1.pass c, p.2) log
  · exact .bind (visit_relog hb _ _ _ _) fun w log => .ok (_, w) log

lemma steps_relog (hb : branch.Unlogged) (lines : List Line) (p : Scope × Walk) (log : Log) :
    Alike relogged (s.steps branch name line lines p)
      (s.steps branch name line lines (relogged p log)) := by
  induction lines generalizing line p log with
  | nil => exact .ok p log
  | cons l rest ih =>
    rcases l with e | _ | c
    · exact .error _ _ _
    · exact ih p log
    · exact .bind (exec_relog hb p log c) fun p log => ih p log

lemma branching_relog_of_error {layout : String} {e : Error} (hs : s.script layout = .error e)
    (room : Nat) (path : List String) (node : Node) (w : Walk) (log : Log) :
    Alike .relog (s.branching room path layout node w)
      (s.branching room path layout node (w.relog log)) := by
  simp only [branching, follow, hs]
  cases e with
  | missingLayout name =>
    dsimp only
    split
    · exact .ok { w with log := _ } _
    · exact .error _ _ _
  | _ => exact .error _ _ _

lemma unlogged_branching (s : Setting) (room : Nat) (path : List String) :
    (s.branching room path).Unlogged := by
  induction room generalizing path with
  | zero =>
    intro layout node w log
    cases hs : s.script layout with
    | error e => exact branching_relog_of_error hs _ _ _ _ _
    | ok script =>
      rw [branching_zero path hs, branching_zero path hs]
      exact .error _ _ _
  | succ room ih =>
    intro layout node w log
    cases hs : s.script layout with
    | error e => exact branching_relog_of_error hs _ _ _ _ _
    | ok script =>
      rw [branching_succ room path hs, branching_succ room path hs]
      split
      · exact .error _ _ _
      · rw [runLines_eq_steps _ layout 0 script (.enter node, w),
          runLines_eq_steps _ layout 0 script (.enter node, w.relog log)]
        exact .bind (steps_relog (ih _) script (.enter node, w) log) fun p log => .ok p.2 log

lemma foldlM_far (ha : s.asymmetric = false) (hb : s.Hides branch) (hn : Nested cs)
    (hc : s.FarOnly cs) (hnode : p.1.node.visible = false)
    (h : cs.foldlM (s.exec branch) p = .ok q) :
    q.1.stack = p.1.stack ∧ ∃ log, q.2 = p.2.relog log := by
  let lines : List Line := cs.map (.ok ∘ some)
  have hd : decoded lines = cs := by simp [lines, decoded, Except.toOption]
  have hsome : (cs.map some).reduceOption = cs := show (cs.map some).filterMap id = cs by simp
  have hsteps (p : Scope × Walk) : s.steps branch "" 0 lines p = cs.foldlM (s.exec branch) p :=
    steps_of_decodes ⟨cs.map some, by simp [lines], hsome.symm⟩
  rw [← hsteps] at h
  refine ⟨stack_of_nested h (hd.symm ▸ hn), ?_⟩
  -- The nodes saved before may be in sight, but nested commands run the same without them.
  let start : Scope := { p.1 with stack := [] }
  have hcovered : Covered ([] : List Node).length (decoded lines) := hd.symm ▸ hn.covered
  have hstart : start.stack = [] ++ [] := rfl
  have hover : s.steps branch "" 0 lines (start.over p.1.stack, p.2) = _ :=
    steps_over (p := (start, p.2)) ha hcovered hstart
  change s.steps branch "" 0 lines p = _ at hover
  rw [h] at hover
  obtain ⟨r, hr, rfl⟩ : ∃ r, s.steps branch "" 0 lines (start, p.2) = .ok r ∧
      (r.1.over p.1.stack, r.2) = q := by
    cases hr : s.steps branch "" 0 lines (start, p.2) with
    | error e => simp [hr] at hover
    | ok r => exact ⟨r, rfl, by simpa [hr] using hover.symm⟩
  have hdark : start.Dark := by simpa [Scope.Dark, start] using hnode
  exact (foldlM_dark hb hc hdark ((hsteps _).symm.trans hr)).2

lemma steps_far {body : List Line} {near far : Int32} (ha : s.asymmetric = false)
    (hb : s.Hides branch) (hnear : 0 ≤ near) (hbody : decoded body = .renderRange near far :: cs)
    (hn : Nested cs) (hfar : s.FarOnly cs)
    (h : s.steps branch name line (bracket body) p = .ok q) :
    q.1 = { p.1 with switch := cs.foldl s.options.countCase p.1.switch } ∧
      ∃ log, q.2 = p.2.relog log := by
  have hlines : decoded (bracket body) =
      .openNode :: .renderRange near far :: (cs ++ [.closeNode]) := by
    rw [bracket, ← List.cons_append, decoded_append]
    change .openNode :: decoded body ++ _ = _
    rw [hbody]
    rfl
  rw [steps_of_decodes (decodes_of_steps h), hlines] at h
  have hswitch : q.1.switch = cs.foldl s.options.countCase p.1.switch := by
    rw [switch_of_foldlM h]
    simp [Options.countCase, Command.isCase]
  let behind : Scope := { p.1.openNode with node := { p.1.node with side := some .far } }
  have hbehind : s.perform p.1.openNode p.2 (.renderRange near far) = (behind, p.2) := by
    rw [perform, if_neg (by simpa using hnear)]
    rfl
  obtain ⟨p₁, h₁, h⟩ := ok_of_bind h
  rw [exec_of_not_isCase rfl] at h₁
  obtain rfl : (p.1.openNode, p.2) = p₁ := Except.ok.inj h₁
  obtain ⟨p₂, h₂, h⟩ := ok_of_bind h
  rw [exec_of_not_isCase rfl, hbehind] at h₂
  obtain rfl : (behind, p.2) = p₂ := Except.ok.inj h₂
  rw [List.foldlM_append] at h
  obtain ⟨r, hr, h⟩ := ok_of_bind h
  rw [List.foldlM_cons, exec_of_not_isCase rfl] at h
  obtain rfl : (r.1.closeNode s.asymmetric, r.2) = q := Except.ok.inj h
  obtain ⟨hstack, hwalk⟩ := foldlM_far ha hb hn hfar rfl hr
  refine ⟨?_, hwalk⟩
  have hs : r.1.stack = p.1.node :: p.1.stack := hstack
  rw [← hswitch]
  simp [Scope.closeNode, hs, ha]

end Setting

/--
A far model leaves the walk as it was, but for the log, and its scope, but for the switch, which has
counted its cases. Later lines run as they would have run without it from there on, and their joints
are numbered on from those before it.
-/
theorem far_model_is_silent {lookup : Lookup} {options : Options} {root : String}
    (hroot : options.asymmetricLayouts.contains root = false) {room line : Nat} {path : List String}
    {name : String} {p q : Scope × Walk} {near far : Int32} {body : List Line} {cs : List Command}
    (hnear : 0 ≤ near) (hbody : decoded body = .renderRange near far :: cs) (hn : Nested cs)
    (hfar : (settingOf lookup options root).FarOnly cs) :
    let s := settingOf lookup options root
    let run := s.steps (s.branching room path) name
    run line (bracket body) p = .ok q →
      (q.2.placements = p.2.placements ∧ q.2.joint = p.2.joint ∧ q.2.playhead = p.2.playhead) ∧
      q.1 = { p.1 with switch := cs.foldl options.countCase p.1.switch } ∧
      (p.1.switch = {} → (options.switchAfter cs).active = false → q.1 = p.1) ∧
      (∀ line' rest, Alike relogged (run line' rest (q.1, p.2)) (run line' rest q)) ∧
      ∀ a frame, p.2.Plays a frame → ∀ line' rest r, run line' rest q = .ok r → ∀ k part,
        ((s.momentsFrom (s.branching room path) (s.recording room path) path line' rest q).filterMap
          s.part?)[k]? = some part →
        s.Drives part (a.jointMatrix frame (p.2.joint + k) part.offset) := by
  intro s run h
  obtain ⟨hscope, log, hwalk⟩ :=
    Setting.steps_far hroot (s.hides_branching room path) hnear hbody hn hfar h
  obtain ⟨sc, w⟩ := q
  obtain rfl : w = p.2.relog log := hwalk
  refine ⟨⟨rfl, rfl, rfl⟩, hscope, fun hidle hcs => ?_, fun line' rest => ?_, ?_⟩
  · have hafter : cs.foldl s.options.countCase p.1.switch = p.1.switch := by
      rw [hidle]
      exact Options.switchAfter_of_not_active hcs
    rw [hscope, hafter]
  · exact Setting.steps_relog (s.unlogged_branching room path) rest (sc, p.2) log
  · intro a frame hplays line' rest r hr k part hk
    have hlasting := s.lasting_animates a frame
    exact (hlasting.steps (hlasting.branching room path) hr).drives hplays k part hk

def doll (lines : List String) : Sources where
  layouts := .ofList [("doll", lines ++ ["GEO_ANIMATED_PART(LAYER_OPAQUE, 0, 0, 0, hat)",
      "GEO_ANIMATED_PART(LAYER_OPAQUE, 0, 5, 0, arm)",
      "GEO_ANIMATED_PART(LAYER_OPAQUE, 0, 9, 0, leg)"]),
    ("hill", ["GEO_CLOSE_NODE()", "GEO_CLOSE_NODE()",
      "GEO_ANIMATED_PART(LAYER_ALPHA, 0, 1, 0, tree)", "GEO_DISPLAY_LIST(LAYER_ALPHA, grass)"])]

theorem far_model_is_silent_doll :
    let s := settingOf (doll []).lookup {} "doll"
    let run := s.steps (s.branching 63 ["doll"]) "doll"
    let cs : List Command := [.branch "hill" true, .displayList .solid "rock"]
    let body : List Line := (.renderRange 0 100 :: cs).map (.ok ∘ some)
    let p : Scope × Walk := (.enter .root, { playhead := some ⟨stride, 0, 0⟩ })
    (Options.asymmetricLayouts {}).contains "doll" = false ∧ (0 : Int32) ≤ 0 ∧ Nested cs ∧
      s.FarOnly cs ∧ ∃ q, run 0 (bracket body) p = .ok q ∧
        q.2.placements = [] ∧ q.2.joint = 0 ∧ q.2.playhead = p.2.playhead ∧ q.1 = p.1 := by
  intro s run cs body p
  have hnear : ∀ e ∈ (doll []).layouts.entries, ∀ c ∈ decoded (e.2.map decodeLine),
      c.bringsNear = false := by
    decide +kernel
  have hstays (layout : String) : s.StaysFar layout := by
    intro target _ script hs
    obtain ⟨lines, hfind, rfl⟩ := scripts_eq_ok_iff.1 hs
    exact hnear _ (KeyMap.mem_of_find? hfind)
  have hfar : s.FarOnly cs :=
    fun c hc => ⟨by revert c; decide, fun layout _ _ _ => hstays layout⟩
  have hroot : (Options.asymmetricLayouts {}).contains "doll" = false := by decide
  have hn : Nested cs :=
    .append (nested_singleton (c := .branch "hill" true) (by decide) (by decide))
      (nested_singleton (c := .displayList .solid "rock") (by decide) (by decide))
  have hrun : (run 0 (bracket body) p).isOk := by decide +kernel
  cases hq : run 0 (bracket body) p with
  | error e => simp [hq, Except.isOk, Except.toBool] at hrun
  | ok q =>
    obtain ⟨⟨hplaced, hjoint, hplay⟩, -, hscope, -⟩ :=
      far_model_is_silent hroot (by decide) rfl hn hfar hq
    exact ⟨hroot, by decide, hn, hfar, q, rfl, hplaced, hjoint, hplay, hscope rfl rfl⟩

theorem far_switch_shifts_joints :
    let far := ["GEO_OPEN_NODE()", "GEO_RENDER_RANGE(0, 100)", "GEO_SWITCH_CASE(2, mood)",
      "GEO_CLOSE_NODE()"]
    let a : Animation := { index := List.replicate 18 0 ++ [1, 0], values := [-32768] }
    let s (lines : List String) := settingOf (doll lines).lookup {} "doll"
    let parts (lines : List String) :=
      (((s lines).moments "doll" (some ⟨a, 0, 0⟩)).filterMap (s lines).part?).map (·.list)
    let cs : List Command := [.switchCase 2 "mood"]
    (s far).asymmetric = false ∧ Nested cs ∧ (s far).FarOnly cs ∧
      far.map decodeLine = bracket ((.renderRange 0 100 :: cs).map (.ok ∘ some)) ∧
      (interpret (doll far).lookup (some a) {} "doll").1.isOk ∧
      parts far = ["hat", "leg"] ∧ parts [] = ["hat", "arm", "leg"] ∧
      a.channel 0 (3 + 3 * 1) = 0 ∧ a.channel 0 (3 + 3 * 2) = -32768 := by
  intro far a s parts cs
  have hfar : (s far).FarOnly cs := List.forall_mem_singleton.2 ⟨rfl, nofun⟩
  exact ⟨by decide, nested_singleton (by decide) (by decide), hfar, by decide +kernel,
    by decide +kernel, by decide +kernel, by decide +kernel, rfl, rfl⟩

end SceneDraw.Layout
