import SceneDraw.Proofs.Call.Reading
import SceneDraw.Proofs.Layout.Activation
import SceneDraw.Proofs.Layout.Null

/-! Layouts that are spelled in other ways. A motion that also places a list does what the motion
and a display list command do one after the other, unless the node is a billboard or a switch counts
cases. A translation or a rotation is both at once with zeros for the other. A run that is not
stopped does not show which spelling it has read. -/

namespace SceneDraw.Layout

section

variable {c c' : Call} {i j width : Nat}

lemma toOption_int32_congr (h : c.args[i]? = c'.args[j]?) :
    (int32 c i).toOption = (int32 c' j).toOption := by
  simp only [int32, Call.int, toOption_bind, toOption_read, h]
  congr 1
  funext n
  split <;> rfl

lemma toOption_vector_congr (h : ∀ k < 3, c.args[i + k]? = c'.args[j + k]?) :
    (vector c i).toOption = (vector c' j).toOption := by
  simp only [vector, Call.float, toOption_bind, toOption_read]
  rw [h 1 (by omega), h 2 (by omega), show c.args[i]? = c'.args[j]? from h 0 (by omega)]

lemma toOption_float_congr (h : c.args[i]? = c'.args[j]?) :
    (c.float i).toOption = (c'.float j).toOption := by
  rw [Call.float, Call.float, toOption_read, toOption_read, h]

lemma float_of_zero (h : c.args[i]? = some (.int 0)) : c.float i = .ok 0 := by
  rw [Call.float, Call.read, Call.arg, h]
  rfl

lemma vector_of_zeros (h : ∀ k < 3, c.args[i + k]? = some (.int 0)) :
    vector c i = .ok .zero := by
  rw [vector, float_of_zero (i := i) (h 0 (by omega)), float_of_zero (h 1 (by omega)),
    float_of_zero (h 2 (by omega))]
  rfl

lemma toOption_drawLayer (c : Call) (i : Nat) :
    (drawLayer c i).toOption = c.args[i]?.bind drawLayer? := by
  rw [drawLayer, Call.arg]
  cases c.args[i]? with
  | none => rfl
  | some a => cases h : drawLayer? a <;> simp [h, bind, Except.bind, Except.toOption]

lemma expectArity_of_length {n : Nat} (h : c.args.length = n) : c.expectArity n = .ok () := if_pos h

lemma toOption_plain_congr {width width' : Nat} {motion motion' : Except ParseError Motion}
    (hc : c.args.length = width + 1) (hc' : c'.args.length = width' + 1)
    (h : c.args[0]? = c'.args[0]?) (hm : motion.toOption = motion'.toOption) :
    (plain c width motion).toOption = (plain c' width' motion').toOption := by
  simp only [plain, expectArity_of_length hc, expectArity_of_length hc', toOption_bind,
    toOption_drawLayer, h, hm]

end

structure Steady (width : Nat) (motion : Call → Except ParseError Motion) : Prop where
  congr : ∀ c c' : Call, (∀ i, i < width → c.args[1 + i]? = c'.args[1 + i]?) →
    (motion c).toOption = (motion c').toOption
  ne_billboard : ∀ c m t, motion c = .ok m → m ≠ .billboard t

lemma steady_scaling : Steady 1 scaling where
  congr c c' h := by simp only [scaling, toOption_bind, toOption_int32_congr (h 0 Nat.one_pos)]
  ne_billboard c m t h := by
    obtain ⟨_, -, h⟩ := ok_of_bind h
    exact Except.ok.inj h ▸ nofun

lemma steady_vector {f : Vec3 Float32 → Motion} (hf : ∀ v t, f v ≠ .billboard t) :
    Steady 3 fun c => return f (← vector c 1) where
  congr c c' h := by simp only [toOption_bind, toOption_vector_congr h]
  ne_billboard c m t h := by
    obtain ⟨v, -, h⟩ := ok_of_bind h
    exact Except.ok.inj h ▸ hf v t

lemma steady_translatingRotating : Steady 6 translatingRotating where
  congr c c' h := by
    have h₁ : ∀ k < 3, c.args[1 + k]? = c'.args[1 + k]? := fun k hk => h k (by omega)
    have h₄ : ∀ k < 3, c.args[4 + k]? = c'.args[4 + k]? := fun k hk => by
      have := h (3 + k) (by omega)
      rwa [← Nat.add_assoc] at this
    simp only [translatingRotating, toOption_bind, toOption_vector_congr h₁,
      toOption_vector_congr h₄]
  ne_billboard c m t h := by
    obtain ⟨_, -, h⟩ := ok_of_bind h
    obtain ⟨_, -, h⟩ := ok_of_bind h
    exact Except.ok.inj h ▸ nofun

lemma steady_rotatingY : Steady 1 rotatingY where
  congr c c' h := by simp only [rotatingY, toOption_bind, toOption_float_congr (h 0 Nat.one_pos)]
  ne_billboard c m t h := by
    obtain ⟨_, -, h⟩ := ok_of_bind h
    exact Except.ok.inj h ▸ nofun

lemma ofCall_displayList (args : List Arg) : ofCall ⟨"GEO_DISPLAY_LIST", args⟩ = (do
    Call.expectArity ⟨"GEO_DISPLAY_LIST", args⟩ 2
    return .displayList (← drawLayer ⟨"GEO_DISPLAY_LIST", args⟩ 0)
      (← listName ⟨"GEO_DISPLAY_LIST", args⟩ 1)) :=
  rfl

def Splits (d : Command) (r r' : Except ParseError Command) : Prop :=
  ∃ m l target, (∀ t, m ≠ .billboard t) ∧ d = .move m l (some target) ∧
    r = .ok (.move m l none) ∧ r' = .ok (.displayList l target)

lemma splits_of_withList {name name' : String} {layer list : Arg} {args : List Arg} {width : Nat}
    {motion : Call → Except ParseError Motion} {d : Command} (hm : Steady width motion)
    (h : withList ⟨name, layer :: (args ++ [list])⟩ width
      (motion ⟨name, layer :: (args ++ [list])⟩) = .ok d) :
    Splits d (plain ⟨name', layer :: args⟩ width (motion ⟨name', layer :: args⟩))
      (ofCall ⟨"GEO_DISPLAY_LIST", [layer, list]⟩) := by
  obtain ⟨⟨⟩, hw, h⟩ := ok_of_bind h
  obtain ⟨l, hl, h⟩ := ok_of_bind h
  obtain ⟨m, hmotion, h⟩ := ok_of_bind h
  obtain ⟨target, ht, h⟩ := ok_of_bind h
  obtain rfl := Except.ok.inj h
  obtain rfl : args.length = width := by simpa using length_of_expectArity hw
  have hlayer (name : String) (rest : List Arg) : drawLayer ⟨name, layer :: rest⟩ 0 = .ok l := by
    rw [← toOption_eq_some_iff, toOption_drawLayer] at hl ⊢
    exact hl
  refine ⟨m, l, target, fun t => hm.ne_billboard _ m t hmotion, rfl, ?_, ?_⟩
  · have harity : (Call.mk name' (layer :: args)).expectArity (args.length + 1) = .ok () :=
      expectArity_of_length rfl
    have hmotion' : motion ⟨name', layer :: args⟩ = .ok m := by
      rw [← toOption_eq_some_iff] at hmotion ⊢
      rw [← hmotion]
      refine hm.congr _ _ fun i hi => ?_
      simp [Nat.add_comm 1, List.getElem?_append_left hi]
    rw [plain, harity, hlayer, hmotion']
    rfl
  · have ht' : listName ⟨"GEO_DISPLAY_LIST", [layer, list]⟩ 1 = .ok target := by
      rw [listName_eq_ok_iff] at ht ⊢
      simpa using ht
    rw [ofCall_displayList, hlayer, ht']
    rfl

def movingCalls : List String :=
  ["GEO_SCALE", "GEO_TRANSLATE_ROTATE", "GEO_TRANSLATE", "GEO_ROTATE", "GEO_ROTATE_Y",
    "GEO_TRANSLATE_NODE", "GEO_ROTATION_NODE"]

lemma splits_of_ofCall {name : String} {layer list : Arg} {args : List Arg} {d : Command}
    (hn : name ∈ movingCalls)
    (h : ofCall ⟨name ++ "_WITH_DL", layer :: (args ++ [list])⟩ = .ok d) :
    Splits d (ofCall ⟨name, layer :: args⟩) (ofCall ⟨"GEO_DISPLAY_LIST", [layer, list]⟩) := by
  simp only [movingCalls, List.mem_cons, List.not_mem_nil, or_false] at hn
  rcases hn with rfl | rfl | rfl | rfl | rfl | rfl | rfl
  · exact splits_of_withList steady_scaling h
  · exact splits_of_withList steady_translatingRotating h
  · exact splits_of_withList (steady_vector (f := (.translateRotate · .zero)) nofun) h
  · exact splits_of_withList (steady_vector (f := .translateRotate .zero) nofun) h
  · exact splits_of_withList steady_rotatingY h
  · exact splits_of_withList (steady_vector (f := .translate) nofun) h
  · exact splits_of_withList (steady_vector (f := .rotate) nofun) h

inductive Zeroed : Call → Call → Prop
  | translate (layer x y z : Arg) : Zeroed ⟨"GEO_TRANSLATE", [layer, x, y, z]⟩
      ⟨"GEO_TRANSLATE_ROTATE", [layer, x, y, z, .int 0, .int 0, .int 0]⟩
  | rotate (layer x y z : Arg) : Zeroed ⟨"GEO_ROTATE", [layer, x, y, z]⟩
      ⟨"GEO_TRANSLATE_ROTATE", [layer, .int 0, .int 0, .int 0, x, y, z]⟩
  | rotateY (layer y : Arg) : Zeroed ⟨"GEO_ROTATE_Y", [layer, y]⟩
      ⟨"GEO_TRANSLATE_ROTATE", [layer, .int 0, .int 0, .int 0, .int 0, y, .int 0]⟩

section

variable {c c' : Call}

lemma translating_congr (hv : ∀ k < 3, c.args[1 + k]? = c'.args[1 + k]?)
    (hz : ∀ k < 3, c'.args[4 + k]? = some (.int 0)) :
    (translating c).toOption = (translatingRotating c').toOption := by
  simp only [translating, translatingRotating, toOption_bind, toOption_vector_congr hv,
    vector_of_zeros hz]
  rfl

lemma rotating_congr (hz : ∀ k < 3, c'.args[1 + k]? = some (.int 0))
    (hv : ∀ k < 3, c.args[1 + k]? = c'.args[4 + k]?) :
    (rotating c).toOption = (translatingRotating c').toOption := by
  simp only [rotating, translatingRotating, toOption_bind, toOption_vector_congr hv,
    vector_of_zeros hz]
  rfl

lemma rotatingY_congr (hz : ∀ k < 3, c'.args[1 + k]? = some (.int 0))
    (hx : c'.args[4]? = some (.int 0)) (hy : c.args[1]? = c'.args[5]?)
    (hz' : c'.args[6]? = some (.int 0)) :
    (rotatingY c).toOption = (translatingRotating c').toOption := by
  have hv : (vector c' 4).toOption = (c'.float 5).toOption.map (⟨0, ·, 0⟩) := by
    rw [vector, float_of_zero hx, float_of_zero hz']
    cases c'.float 5 <;> rfl
  simp only [rotatingY, translatingRotating, vector_of_zeros hz, toOption_bind,
    toOption_float_congr hy]
  change _ = (vector c' 4).toOption.bind _
  rw [hv]
  cases (c'.float 5).toOption <;> rfl

lemma toOption_ofCall_of_zeroed (h : Zeroed c c') :
    (ofCall c).toOption = (ofCall c').toOption := by
  cases h with
  | translate layer x y z =>
    refine toOption_plain_congr rfl rfl rfl (translating_congr ?_ ?_)
    · exact fun | 0, _ | 1, _ | 2, _ => rfl
    · exact fun | 0, _ | 1, _ | 2, _ => rfl
  | rotate layer x y z =>
    refine toOption_plain_congr rfl rfl rfl (rotating_congr ?_ ?_)
    · exact fun | 0, _ | 1, _ | 2, _ => rfl
    · exact fun | 0, _ | 1, _ | 2, _ => rfl
  | rotateY layer y =>
    refine toOption_plain_congr rfl rfl rfl (rotatingY_congr ?_ rfl rfl rfl)
    exact fun | 0, _ | 1, _ | 2, _ => rfl

end

/-- At the sites, the new lines spell a motion with a list as two lines. -/
inductive Respelled (site : Nat → Prop) : Nat → List Line → List Line → Prop
  | nil (line : Nat) : Respelled site line [] []
  | line {line : Nat} {l l' : Line} {rest rest' : List Line} : l.toOption = l'.toOption →
      Respelled site (line + 1) rest rest' → Respelled site line (l :: rest) (l' :: rest')
  | site {line : Nat} {m : Motion} {layer : DrawLayer} {list : String} {rest rest' : List Line} :
      site line → (∀ t, m ≠ .billboard t) → Respelled site (line + 1) rest rest' →
      Respelled site line (.ok (some (.move m layer (some list))) :: rest)
        (.ok (some (.move m layer none)) :: .ok (some (.displayList layer list)) :: rest')

structure Activation.Respelled (site : String → Nat → Prop) (a b : Activation) : Prop where
  layout : b.layout = a.layout
  scope : b.scope = a.scope
  rest : Layout.Respelled (site a.layout) a.line a.rest b.rest

structure Entry.Respelled (site : String → Nat → Prop) (e f : Entry) : Prop where
  layout : f.layout = e.layout
  node : f.node = e.node
  script : Layout.Respelled (site e.layout) 0 e.script f.script

structure RunState.Respelled (site : String → Nat → Prop) (c d : RunState) : Prop where
  entry : Option.Rel (Entry.Respelled site) c.entry d.entry
  active : List.Forall₂ (Activation.Respelled site) c.active d.active
  walk : d.walk = c.walk

abbrev RunState.PlainAt (c : RunState) (layout : String) (line : Nat) : Prop :=
  ∀ a ∈ c.active.head?, c.entry = none → a.layout = layout → a.line = line →
    a.scope.node.billboard = false ∧ a.scope.switch.active = false

def Outcome.SameWalk (r r' : Outcome) : Prop := r.toOption = r'.toOption

namespace Setting

abbrev Mirrors (site : String → Nat → Prop) (s' : Setting) :
    Next RunState Outcome → Next RunState Outcome → Prop :=
  s'.next.Follows (RunState.Respelled site) Outcome.SameWalk

variable {s : Setting} {site : String → Nat → Prop}
  {script' : String → Except Error (List Line)} {c d : RunState}

lemma layouts_of_respelled {active active' : List Activation}
    (h : List.Forall₂ (Activation.Respelled site) active active') :
    active'.map (·.layout) = active.map (·.layout) := by
  induction h with
  | nil => rfl
  | cons ha _ ih => rw [List.map_cons, List.map_cons, ha.layout, ih]

lemma turn_respelled (hs : Replaced (fun layout => Respelled (site layout) 0) s script')
    {active active' : List Activation}
    (ha : List.Forall₂ (Activation.Respelled site) active active') (layout : String)
    (node : Node) (walk : Walk) :
    Mirrors site { s with script := script' } (s.turn layout node active walk)
      ({ s with script := script' }.turn layout node active' walk) := by
  have hsame (walk : Walk) : RunState.Respelled site { active, walk } { active := active', walk } :=
    ⟨.none, ha, rfl⟩
  have hnull : { s with script := script' }.isNull layout = s.isNull layout := rfl
  rw [turn, turn, hnull]
  split
  · exact .both (hsame walk)
  obtain ⟨e, he, he'⟩ | ⟨old, new, hold, hnew, hspell⟩ := hs layout
  · have hfollow : { s with script := script' }.follow (fun _ _ _ w => .ok w) layout node walk =
        s.follow (fun _ _ _ w => .ok w) layout node walk := by
      simp only [follow, he, he']
    simp only [he, he', hfollow]
    cases s.follow (fun _ _ _ w => .ok w) layout node walk with
    | ok walk => exact .both (hsame walk)
    | error e => exact .last rfl
  · simp only [hold, hnew]
    exact .both ⟨.some ⟨rfl, rfl, hspell⟩, ha, rfl⟩

lemma carryOut_respelled (hs : Replaced (fun layout => Respelled (site layout) 0) s script')
    {a b : Activation} {rest rest' : List Line} {outer outer' : List Activation}
    (hl : b.layout = a.layout) (hsc : b.scope = a.scope)
    (hr : Respelled (site a.layout) (a.line + 1) rest rest')
    (ho : List.Forall₂ (Activation.Respelled site) outer outer') (walk : Walk) (c : Command) :
    Mirrors site { s with script := script' } (s.carryOut a rest outer walk c)
      ({ s with script := script' }.carryOut b rest' outer' walk c) := by
  have hactive (sc : Scope) : List.Forall₂ (Activation.Respelled site)
      (a.goOn rest sc :: outer) (b.goOn rest' sc :: outer') := .cons ⟨hl, rfl, hr⟩ ho
  have hperform (sc : Scope) : { s with script := script' }.perform sc walk c =
      s.perform sc walk c := by
    cases c <;> rfl
  simp only [carryOut, hsc, hperform]
  cases c with
  | branch layout link => exact turn_respelled hs (hactive _) layout _ _
  | _ => exact .both ⟨.none, hactive _, rfl⟩

lemma billboard_move {m : Motion} (hm : ∀ t, m ≠ .billboard t) (n : Node) :
    (n.move m).billboard = n.billboard := by
  cases m with
  | billboard t => exact absurd rfl (hm t)
  | _ => rfl

lemma isOpen_of_not_active {sw : Switch} (h : sw.active = false) : sw.isOpen = true := by
  simp only [Switch.active, bne_eq_false_iff_eq] at h
  simp [Switch.isOpen, h]

lemma next_moveWithList {sc : Scope} (hsw : sc.switch.active = false) (m : Motion)
    (layer : DrawLayer) (list layout : String) (line : Nat) (rest : List Line)
    (outer : List Activation) (walk : Walk) :
    s.next { active := ⟨layout, line, .ok (some (.move m layer (some list))) :: rest, sc⟩ :: outer
             walk } =
      .goesOn {
        active := ⟨layout, line + 1, rest,
          { sc with node := sc.node.move m, switch := sc.switch.advance }⟩ :: outer
        walk := s.place walk (sc.node.move m) layer list (sc.node.move m).transform } := by
  simp only [next, isOpen_of_not_active hsw, Bool.not_true, Bool.and_false, Bool.false_eq_true,
    ↓reduceIte]
  rfl

lemma next_move (sc : Scope) (m : Motion) (layer : DrawLayer) (layout : String) (line : Nat)
    (rest : List Line) (outer : List Activation) (walk : Walk) :
    s.next { active := ⟨layout, line, .ok (some (.move m layer none)) :: rest, sc⟩ :: outer
             walk } =
      .goesOn { active := ⟨layout, line + 1, rest, { sc with node := sc.node.move m }⟩ :: outer
                walk } :=
  rfl

lemma next_displayList {sc : Scope} (hb : sc.node.billboard = false)
    (hsw : sc.switch.active = false) (layer : DrawLayer) (list layout : String) (line : Nat)
    (rest : List Line) (outer : List Activation) (walk : Walk) :
    s.next { active := ⟨layout, line, .ok (some (.displayList layer list)) :: rest, sc⟩ :: outer
             walk } =
      .goesOn {
        active := ⟨layout, line + 1, rest, { sc with switch := sc.switch.advance }⟩ :: outer
        walk := s.place walk sc.node layer list sc.node.transform } := by
  have hdraw : sc.node.drawTransform = sc.node.transform := if_neg (by simp [hb])
  rw [← hdraw]
  simp only [next, isOpen_of_not_active hsw, Bool.not_true, Bool.and_false, Bool.false_eq_true,
    ↓reduceIte]
  rfl

lemma next_respelled (hs : Replaced (fun layout => Respelled (site layout) 0) s script')
    (h : c.Respelled site d)
    (hsite : ∀ layout line, site layout line → c.PlainAt layout line) :
    Mirrors site { s with script := script' } (s.next c) (.goesOn d) := by
  refine .of_next ?_
  obtain ⟨entry, active, walk⟩ := c
  obtain ⟨entry', active', walk'⟩ := d
  obtain ⟨he, ha, hw⟩ := h
  obtain rfl : walk' = walk := hw
  cases he with
  | @some e f hef =>
    obtain ⟨layout, script, node⟩ := e
    obtain ⟨layout', script', node'⟩ := f
    obtain ⟨hlayout, hnode, hspell⟩ := hef
    obtain rfl : layout' = layout := hlayout
    obtain rfl : node' = node := hnode
    have hpath : active'.map (·.layout) = active.map (·.layout) := layouts_of_respelled ha
    simp only [next, RunState.path, hpath, ha.length_eq]
    split_ifs
    · exact .last rfl
    · exact .last rfl
    · exact .both ⟨.none, .cons ⟨rfl, rfl, hspell⟩ ha, rfl⟩
  | none =>
    cases ha with
    | nil => exact .last rfl
    | @cons a b outer outer' hab ho =>
      obtain ⟨layout, line, rest, scope⟩ := a
      obtain ⟨layout', line', rest', scope'⟩ := b
      obtain ⟨hlayout, hscope, hr⟩ := hab
      obtain rfl : layout' = layout := hlayout
      obtain rfl : scope' = scope := hscope
      cases hr with
      | nil line => exact .both ⟨.none, ho, rfl⟩
      | @line _ l l' rest rest' hl hrest =>
        cases l with
        | error e =>
          cases l' with
          | error e' => exact .last rfl
          | ok _ => cases hl
        | ok c =>
          obtain rfl : l' = .ok c := toOption_eq_some_iff.1 hl.symm
          cases c with
          | none => exact .both ⟨.none, .cons ⟨rfl, rfl, hrest⟩ ho, rfl⟩
          | some c =>
            simp only [next]
            split
            · exact .both ⟨.none, .cons ⟨rfl, rfl, hrest⟩ ho, rfl⟩
            · exact carryOut_respelled (a := ⟨layout', line, _, scope'⟩)
                (b := ⟨layout', line', _, scope'⟩) hs rfl rfl hrest ho _ _
      | @site _ m layer list rest rest' hat hm hrest =>
        -- Two steps answer one: a line of its own places the list, at the node that was moved.
        obtain ⟨hb, hsw⟩ : scope'.node.billboard = false ∧ scope'.switch.active = false :=
          hsite _ _ hat _ rfl rfl rfl rfl
        let moved : Scope := { scope' with node := scope'.node.move m }
        have hb' : moved.node.billboard = false := (billboard_move hm _).trans hb
        have hsw' : moved.switch.active = false := hsw
        rw [next_moveWithList hsw, next_move]
        refine .goesOn ?_ (.goOn (.refl _) (next_displayList hb' hsw' ..))
        exact ⟨.none, .cons ⟨rfl, rfl, hrest⟩ ho, rfl⟩

lemma toOption_runRoot_respelled (hs : Replaced (fun layout => Respelled (site layout) 0) s script')
    {root : String} {playhead : Option Playhead}
    (hsite : ∀ c, s.next.Passes (s.start root playhead) c →
      ∀ layout line, site layout line → c.PlainAt layout line) :
    (runRoot { s with script := script' } root playhead).toOption =
      (runRoot s root playhead).toOption := by
  have hstart : Mirrors site { s with script := script' } (s.start root playhead)
      ({ s with script := script' }.start root playhead) := by
    rw [start, start]
    obtain ⟨e, he, he'⟩ | ⟨old, new, hold, hnew, hspell⟩ := hs root
    · simp only [he, he']
      exact .last rfl
    · simp only [hold, hnew]
      exact .both ⟨.some ⟨rfl, rfl, hspell⟩, .nil, rfl⟩
  obtain ⟨r, hr, hsame⟩ := (s.ends_start root playhead).followed hstart fun c d hc hd =>
    next_respelled hs hd (hsite c hc)
  rw [(ends_start root playhead).unique hr]
  exact hsame.symm

end Setting

section

variable {site : Nat → Prop} {text : String} {texts : List String} {c : Call} {calls : List Call}

lemma respelled_refl (line : Nat) (lines : List Line) : Respelled site line lines lines := by
  induction lines generalizing line with
  | nil => exact .nil line
  | cons l rest ih => exact .line rfl (ih (line + 1))

lemma Respelled.append_left {line : Nat} {old new : List Line} (pre : List Line)
    (h : Respelled site (line + pre.length) old new) :
    Respelled site line (pre ++ old) (pre ++ new) := by
  induction pre generalizing line with
  | nil => exact h
  | cons l pre ih =>
    refine .line rfl (ih ?_)
    rwa [List.length_cons, ← Nat.add_assoc, Nat.add_right_comm] at h

lemma decodeLine_of_call (h : Call.parse text = .ok (some c)) :
    decodeLine text = some <$> ofCall c := by
  rw [decodeLine, h]
  rfl

lemma respelled_of_withList {moving : String} {layer list : Arg} {args : List Arg} {line : Nat}
    {text text₁ text₂ : String} (hm : moving ∈ movingCalls) (hat : site line)
    (hc : Call.parse text = .ok (some ⟨moving ++ "_WITH_DL", layer :: (args ++ [list])⟩))
    (hd : (decodeLine text).isOk) (h₁ : Call.parse text₁ = .ok (some ⟨moving, layer :: args⟩))
    (h₂ : Call.parse text₂ = .ok (some ⟨"GEO_DISPLAY_LIST", [layer, list]⟩)) (rest : List Line) :
    Respelled site line (decodeLine text :: rest)
      (decodeLine text₁ :: decodeLine text₂ :: rest) := by
  rw [decodeLine_of_call hc] at hd ⊢
  rw [decodeLine_of_call h₁, decodeLine_of_call h₂]
  cases ho : ofCall ⟨moving ++ "_WITH_DL", layer :: (args ++ [list])⟩ with
  | error e =>
    rw [ho] at hd
    cases hd
  | ok d =>
    obtain ⟨m, l, target, hb, rfl, hmove, hplace⟩ := splits_of_ofCall hm ho
    rw [hmove, hplace]
    exact .site hat hb (respelled_refl _ rest)

lemma toOption_decodeLine_of_zeroed {c' : Call} {text' : String}
    (h : Zeroed c c' ∨ Zeroed c' c) (hc : Call.parse text = .ok (some c))
    (hc' : Call.parse text' = .ok (some c')) :
    (decodeLine text).toOption = (decodeLine text').toOption := by
  have hsame : (ofCall c).toOption = (ofCall c').toOption :=
    h.elim toOption_ofCall_of_zeroed fun h => (toOption_ofCall_of_zeroed h).symm
  rw [decodeLine_of_call hc, decodeLine_of_call hc', toOption_map, toOption_map, hsame]

end

section

variable {lookup lookup' : Lookup} {name : String} {pre post texts : List String} {text : String}

lemma toOption_interpret (lookup : Lookup) (animation : Option Animation) (options : Options)
    (root : String) :
    (interpret lookup animation options root).1.toOption =
      (runRoot (settingOf lookup options root) root
        (animation.map fun animation => { animation, frame := options.frame })).toOption.map
        (·.placements) := by
  rw [interpret_eq]
  split <;> simp [*, Except.toOption]

lemma toOption_interpret_respelled (site : String → Nat → Prop) {animation : Option Animation}
    {options : Options} {root : String} (hold : lookup .layout name = .ok (pre ++ text :: post))
    (hnew : lookup' .layout name = .ok (pre ++ texts ++ post))
    (hother : ∀ other, other ≠ name → lookup' .layout other = lookup .layout other)
    (h : Respelled (site name) pre.length (decodeLine text :: post.map decodeLine)
      (texts.map decodeLine ++ post.map decodeLine))
    (hsite : ∀ c, (settingOf lookup options root).next.Passes
      ((settingOf lookup options root).start root
        (animation.map fun animation => { animation, frame := options.frame })) c →
      ∀ layout line, site layout line → c.PlainAt layout line) :
    (interpret lookup' animation options root).1.toOption =
      (interpret lookup animation options root).1.toOption := by
  have hscript (lines : List String) {l : Lookup} (h : l .layout name = .ok lines) :
      scripts l name = .ok (lines.map decodeLine) := by
    rw [scripts, h]
  have hscripts (other : String) (h : other ≠ name) :
      scripts lookup' other = scripts lookup other := by
    rw [scripts, scripts, hother other h]
  have hreplaced : Setting.Replaced (fun layout => Respelled (site layout) 0)
      (settingOf lookup options root) (scripts lookup') := by
    refine Setting.replaced_of_eq (hscript _ hold) (hscript _ hnew) hscripts ?_
      fun layout script => respelled_refl 0 script
    rw [List.append_assoc, List.map_append, List.map_append, List.map_append, List.map_cons]
    exact .append_left _ (by rwa [Nat.zero_add, List.length_map])
  rw [toOption_interpret, toOption_interpret,
    ← Setting.toOption_runRoot_respelled hreplaced hsite]
  rfl

end

theorem interpret_respelled {lookup lookup' : Lookup} {name : String} {pre post texts : List String}
    {text : String} {c : Call} {calls : List Call}
    (hold : lookup .layout name = .ok (pre ++ text :: post))
    (hnew : lookup' .layout name = .ok (pre ++ texts ++ post))
    (hother : ∀ other, other ≠ name → lookup' .layout other = lookup .layout other)
    (hc : Call.parse text = .ok (some c))
    (hcalls : texts.map Call.parse = calls.map (.ok ∘ some))
    (animation : Option Animation) (options : Options) (root : String) :
    let s := settingOf lookup options root
    let start := s.start root (animation.map fun animation => { animation, frame := options.frame })
    let same := (interpret lookup' animation options root).1.toOption =
      (interpret lookup animation options root).1.toOption
    (∀ moving ∈ movingCalls, ∀ layer args list,
      c = ⟨moving ++ "_WITH_DL", layer :: (args ++ [list])⟩ → (decodeLine text).isOk →
      calls = [⟨moving, layer :: args⟩, ⟨"GEO_DISPLAY_LIST", [layer, list]⟩] →
      (∀ c, s.next.Passes start c → c.PlainAt name pre.length) → same) ∧
    ∀ c', Zeroed c c' ∨ Zeroed c' c → calls = [c'] → same := by
  refine ⟨?_, ?_⟩
  · rintro moving hmoving layer args list rfl hdecodes rfl hplain
    obtain ⟨text₁, text₂, rfl⟩ : ∃ text₁ text₂, texts = [text₁, text₂] :=
      List.length_eq_two.1 (by simpa using congrArg List.length hcalls)
    obtain ⟨h₁, h₂⟩ : Call.parse text₁ = .ok (some ⟨moving, layer :: args⟩) ∧
        Call.parse text₂ = .ok (some ⟨"GEO_DISPLAY_LIST", [layer, list]⟩) := by
      simpa using hcalls
    let site (layout : String) (line : Nat) : Prop := layout = name ∧ line = pre.length
    have hat : site name pre.length := ⟨rfl, rfl⟩
    refine toOption_interpret_respelled site hold hnew hother
      (respelled_of_withList hmoving hat hc hdecodes h₁ h₂ _) ?_
    rintro c hp layout line ⟨rfl, rfl⟩
    exact hplain c hp
  · rintro c' hzeroed rfl
    obtain ⟨text', rfl⟩ : ∃ text', texts = [text'] :=
      List.length_eq_one_iff.1 (by simpa using congrArg List.length hcalls)
    have hc' : Call.parse text' = .ok (some c') := by simpa using hcalls
    have hsame := toOption_decodeLine_of_zeroed hzeroed hc hc'
    exact toOption_interpret_respelled (fun _ _ => False) hold hnew hother
      (.line hsame (respelled_refl _ _)) fun _ _ _ _ h => h.elim

def cart (lines : List String) : Sources :=
  .insert {} .layout "cart" (["GEO_OPEN_NODE()"] ++ lines ++
    ["GEO_CLOSE_NODE()", "GEO_BILLBOARD()", "GEO_DISPLAY_LIST(LAYER_ALPHA, lamp)"])

theorem interpret_respelled_cart :
    (interpret (cart ["GEO_SCALE(LAYER_ALPHA, 32768)",
        "GEO_DISPLAY_LIST(LAYER_ALPHA, wheel)"]).lookup none {} "cart").1.toOption =
      (interpret (cart ["GEO_SCALE_WITH_DL(LAYER_ALPHA, 32768, wheel)"]).lookup none {}
        "cart").1.toOption ∧
    (interpret (cart ["GEO_TRANSLATE_ROTATE(LAYER_ALPHA, 1, 2, 3, 0, 0, 0)"]).lookup none {}
        "cart").1.toOption =
      (interpret (cart ["GEO_TRANSLATE(LAYER_ALPHA, 1, 2, 3)"]).lookup none {}
        "cart").1.toOption := by
  let post := ["GEO_CLOSE_NODE()", "GEO_BILLBOARD()", "GEO_DISPLAY_LIST(LAYER_ALPHA, lamp)"]
  have hcart (lines : List String) : (cart lines).lookup .layout "cart" =
      .ok (["GEO_OPEN_NODE()"] ++ lines ++ post) := by
    simp [cart, post, Sources.lookup, Sources.insert, Sources.table, KeyMap.find?_insert]
  have hother (lines lines' : List String) (other : String) (h : other ≠ "cart") :
      (cart lines').lookup .layout other = (cart lines).lookup .layout other := by
    simp [cart, Sources.lookup, Sources.insert, Sources.table, KeyMap.find?_insert, h.symm]
  have hold (text : String) : (cart [text]).lookup .layout "cart" =
      .ok (["GEO_OPEN_NODE()"] ++ text :: post) := hcart [text]
  let layer : Arg := .symbol "LAYER_ALPHA"
  refine ⟨?_, ?_⟩
  · let s := settingOf (cart ["GEO_SCALE_WITH_DL(LAYER_ALPHA, 32768, wheel)"]).lookup {} "cart"
    have hplain (c : RunState) (hp : s.next.Passes (s.start "cart" none) c) :
        c.PlainAt "cart" 1 := by
      have hall : s.next.checks (fun c => decide (c.PlainAt "cart" 1)) 10 (s.start "cart" none) :=
        by decide +kernel
      have hc := hp.of_checks hall
      exact of_decide_eq_true hc
    have hparse : Call.parse "GEO_SCALE_WITH_DL(LAYER_ALPHA, 32768, wheel)" =
        .ok (some ⟨"GEO_SCALE_WITH_DL", [layer, .int 32768, .symbol "wheel"]⟩) := by
      decide +kernel
    have hparse' : ["GEO_SCALE(LAYER_ALPHA, 32768)",
        "GEO_DISPLAY_LIST(LAYER_ALPHA, wheel)"].map Call.parse =
        [⟨"GEO_SCALE", [layer, .int 32768]⟩,
          ⟨"GEO_DISPLAY_LIST", [layer, .symbol "wheel"]⟩].map (.ok ∘ some) := by
      decide +kernel
    exact (interpret_respelled (hold _) (hcart _) (hother _ _) hparse hparse' none {} "cart").1
      "GEO_SCALE" (by decide) layer [.int 32768] (.symbol "wheel") rfl (by decide +kernel) rfl
      hplain
  · have hparse : Call.parse "GEO_TRANSLATE(LAYER_ALPHA, 1, 2, 3)" =
        .ok (some ⟨"GEO_TRANSLATE", [layer, .int 1, .int 2, .int 3]⟩) := by
      decide +kernel
    have hparse' : ["GEO_TRANSLATE_ROTATE(LAYER_ALPHA, 1, 2, 3, 0, 0, 0)"].map Call.parse =
        [⟨"GEO_TRANSLATE_ROTATE",
          [layer, .int 1, .int 2, .int 3, .int 0, .int 0, .int 0]⟩].map (.ok ∘ some) := by
      decide +kernel
    exact (interpret_respelled (hold _) (hcart _) (hother _ _) hparse hparse' none {} "cart").2
      _ (.inl (.translate ..)) rfl

end SceneDraw.Layout
