import SceneDraw.Proofs.Basic
import SceneDraw.Proofs.Layout.Moments

namespace SceneDraw.Layout

def Command.list? : Command → Option String
  | .move _ _ list => list
  | .animatedPart _ _ list | .displayList _ list => some list
  | _ => none

def listingCalls : List String :=
  ["GEO_BILLBOARD_WITH_PARAMS_AND_DL", "GEO_SCALE_WITH_DL", "GEO_TRANSLATE_ROTATE_WITH_DL",
    "GEO_TRANSLATE_WITH_DL", "GEO_ROTATE_WITH_DL", "GEO_ROTATE_Y_WITH_DL",
    "GEO_TRANSLATE_NODE_WITH_DL", "GEO_ROTATION_NODE_WITH_DL", "GEO_ANIMATED_PART",
    "GEO_DISPLAY_LIST"]

def listArgument? (c : Call) : Option Arg :=
  if c.name ∈ listingCalls then c.args.getLast? else none

/-- The list that an argument names. Zero stands for a list of the name NULL. -/
def namedList? : Arg → Option String
  | .symbol s => some (.ofList (Text.trim (dropAddressOf s)))
  | .int n => if n = 0 then some "NULL" else none
  | .float _ => none

variable {c : Call} {d : Command}

lemma listName_eq_ok_iff {i : Nat} {list : String} :
    listName c i = .ok list ↔ ∃ a, c.args[i]? = some a ∧ namedList? a = some list := by
  cases ha : c.args[i]? with
  | none => simp [listName, Call.arg, ha, bind, Except.bind]
  | some a =>
    cases a with
    | symbol s => simp [listName, Call.arg, ha, namedList?, bind, Except.bind]
    | float x => simp [listName, Call.arg, ha, namedList?, bind, Except.bind]
    | int n =>
      by_cases hn : n = 0 <;> simp [listName, Call.arg, ha, namedList?, hn, bind, Except.bind]

lemma length_of_expectArity {n : Nat} (h : c.expectArity n = .ok ()) : c.args.length = n := by
  rw [Call.expectArity] at h
  split at h
  · assumption
  · cases h

def Lists (c : Call) (d : Command) : Prop :=
  ∃ a list, c.args.getLast? = some a ∧ namedList? a = some list ∧ d.list? = some list

lemma lists_of_listName {width : Nat} {list : String} (hw : c.expectArity (width + 1) = .ok ())
    (hl : listName c width = .ok list) (hd : d.list? = some list) : Lists c d := by
  obtain ⟨a, ha, hname⟩ := listName_eq_ok_iff.1 hl
  have hlen := length_of_expectArity hw
  exact ⟨a, list, by rw [List.getLast?_eq_getElem?, hlen]; exact ha, hname, hd⟩

lemma lists_of_withList {width : Nat} {motion : Except ParseError Motion}
    (h : withList c width motion = .ok d) : Lists c d := by
  obtain ⟨⟨⟩, hw, h⟩ := ok_of_bind h
  obtain ⟨layer, -, h⟩ := ok_of_bind h
  obtain ⟨motion, -, h⟩ := ok_of_bind h
  obtain ⟨list, hl, h⟩ := ok_of_bind h
  obtain rfl := Except.ok.inj h
  exact lists_of_listName hw hl rfl

lemma lists_of_ofCall (hn : c.name ∈ listingCalls) (h : ofCall c = .ok d) : Lists c d := by
  obtain ⟨name, args⟩ := c
  simp only [listingCalls, List.mem_cons, List.not_mem_nil, or_false] at hn
  rcases hn with rfl | rfl | rfl | rfl | rfl | rfl | rfl | rfl | hn
  iterate 8 exact lists_of_withList h
  obtain rfl | rfl := hn
  · obtain ⟨⟨⟩, hw, h⟩ := ok_of_bind h
    obtain ⟨layer, -, h⟩ := ok_of_bind h
    obtain ⟨offset, -, h⟩ := ok_of_bind h
    obtain ⟨list, hl, h⟩ := ok_of_bind h
    obtain rfl := Except.ok.inj h
    exact lists_of_listName hw hl rfl
  · obtain ⟨⟨⟩, hw, h⟩ := ok_of_bind h
    obtain ⟨layer, -, h⟩ := ok_of_bind h
    obtain ⟨list, hl, h⟩ := ok_of_bind h
    obtain rfl := Except.ok.inj h
    exact lists_of_listName hw hl rfl

def Silent (r : Except ParseError Command) : Prop := ∀ d, r = .ok d → d.list? = none

lemma Silent.ok (h : d.list? = none) : Silent (.ok d) := by
  intro d' hd
  obtain rfl := Except.ok.inj hd
  exact h

lemma Silent.bind {α : Type} {x : Except ParseError α} {f : α → Except ParseError Command}
    (h : ∀ a, Silent (f a)) : Silent (x >>= f) := by
  intro d hd
  obtain ⟨a, -, hd⟩ := ok_of_bind hd
  exact h a d hd

lemma silent_plain (width : Nat) (motion : Except ParseError Motion) :
    Silent (plain c width motion) :=
  .bind fun _ => .bind fun _ => .bind fun _ => .ok rfl

lemma silent_ofCall (hn : c.name ∉ listingCalls) : Silent (ofCall c) := by
  simp only [listingCalls, List.mem_cons, List.not_mem_nil, or_false, not_or] at hn
  obtain ⟨_, _, _, _, _, _, _, _, _, _⟩ := hn
  rw [ofCall]
  split
  all_goals try contradiction
  all_goals try exact silent_plain _ _
  all_goals try exact .ok rfl
  · exact .bind fun _ => .bind fun _ => .ok rfl
  · exact .bind fun _ => .bind fun _ => .bind fun _ => .ok rfl
  · exact .bind fun _ => .bind fun _ => .bind fun _ => .ok rfl
  · exact .bind fun _ => .bind fun _ => .bind fun _ => .ok rfl
  · exact .bind fun _ => .bind fun _ => .ok rfl

def Options.Null (o : Options) (a : Arg) : Prop := namedList? a = some o.nullName

namespace Setting

variable {s : Setting} {sc : Scope} {w : Walk} {branch : Branching} {record : Recording}
  {list : String}

lemma list_of_place (s : Setting) (w : Walk) (node : Node) (layer : DrawLayer) (list : String)
    (transform : Matrix) :
    ∃ ps, (s.place w node layer list transform).placements = w.placements ++ ps ∧
      ∀ p ∈ ps, p.list = list ∧ list ≠ s.options.nullName := by
  rw [place_eq]
  refine ⟨_, rfl, ?_⟩
  split
  · simp
  · rename_i hn
    have hn : list ≠ s.options.nullName := by
      rintro rfl
      simp [isNull] at hn
    simp [hn]

lemma list_of_perform (s : Setting) (sc : Scope) (w : Walk) (d : Command) :
    ∃ ps, (s.perform sc w d).2.placements = w.placements ++ ps ∧
      ∀ p ∈ ps, d.list? = some p.list ∧ p.list ≠ s.options.nullName := by
  have hplace {w : Walk} {node : Node} {layer : DrawLayer} {list : String} {transform : Matrix}
      (hd : d.list? = some list) :
      ∃ ps, (s.place w node layer list transform).placements = w.placements ++ ps ∧
        ∀ p ∈ ps, d.list? = some p.list ∧ p.list ≠ s.options.nullName := by
    obtain ⟨ps, hps, hlist⟩ := s.list_of_place w node layer list transform
    refine ⟨ps, hps, fun p hp => ?_⟩
    obtain ⟨rfl, hn⟩ := hlist p hp
    exact ⟨hd, hn⟩
  have hnone : ∃ ps, w.placements = w.placements ++ ps ∧
      ∀ p ∈ ps, d.list? = some p.list ∧ p.list ≠ s.options.nullName := ⟨[], by simp⟩
  cases d with
  | switchCase count selector =>
    rw [perform]
    split <;> exact hnone
  | move motion layer list =>
    cases list with
    | none => exact hnone
    | some list => exact hplace rfl
  | animatedPart layer offset list =>
    rw [perform]
    split
    · obtain ⟨playhead, hw⟩ := nextJoint_eq w offset
      have hsame : (w.nextJoint offset).2.placements = w.placements := by rw [hw]
      exact hsame ▸ hplace rfl
    · exact hnone
  | displayList layer list => exact hplace rfl
  | _ => exact hnone

lemma exec_of_null (hd : d.list? = some s.options.nullName) (branch : Branching) (sc : Scope)
    (w : Walk) : ∃ sc' w', s.exec branch (sc, w) d = .ok (sc', w') ∧
      w'.placements = w.placements := by
  have hvisit (sc : Scope) (w : Walk) : s.visit branch sc w d = .ok w := by
    cases d with
    | branch layout link => cases hd
    | _ => rfl
  rw [exec]
  split
  · exact ⟨_, _, rfl, rfl⟩
  · obtain ⟨ps, hps, hlist⟩ := s.list_of_perform sc w d
    have hnil : ps = [] := by
      refine List.eq_nil_iff_forall_not_mem.2 fun p hp => ?_
      obtain ⟨hp, hn⟩ := hlist p hp
      exact hn (Option.some.inj (hp.symm.trans hd))
    simp only [hvisit]
    exact ⟨_, _, rfl, by simp [hps, hnil]⟩

lemma list_of_mem_placed {m : Moment} {p : Placement} (h : p ∈ s.placed m) :
    m.command.list? = some p.list ∧ p.list ≠ s.options.nullName := by
  obtain ⟨ps, hps, hlist⟩ := s.list_of_perform m.scope m.walk m.command
  rw [placed, hps, List.drop_left] at h
  exact hlist p h

def Stands (s : Setting) (m : Moment) : Prop :=
  ∃ layout script, m.path.head? = some layout ∧ s.script layout = .ok script ∧
    script[m.line]? = some (.ok (some m.command))

lemma stands_of_mem_momentsFrom {path : List String} {layout : String}
    (hrecord : ∀ layout node w, ∀ m ∈ record layout node w, s.Stands m)
    (hpath : path.head? = some layout) {line : Nat} (done : List Line) {lines : List Line}
    (hs : s.script layout = .ok (done ++ lines)) (hl : done.length = line) {p : Scope × Walk}
    {m : Moment} (hm : m ∈ s.momentsFrom branch record path line lines p) : s.Stands m := by
  induction lines generalizing line done p with
  | nil => cases hm
  | cons l rest ih =>
    have hrest (p : Scope × Walk) (hm : m ∈ s.momentsFrom branch record path (line + 1) rest p) :
        s.Stands m := ih (done ++ [l]) (by simpa using hs) (by simp [hl]) hm
    rcases l with e | _ | d
    · cases hm
    · exact hrest _ hm
    · rw [momentsFrom] at hm
      obtain hm | hm := List.mem_append.1 hm
      · rw [momentsAt] at hm
        split at hm
        · cases hm
        · obtain rfl | hm := List.mem_cons.1 hm
          · exact ⟨layout, _, hpath, hs, by simp [← hl]⟩
          · cases d with
            | branch target link =>
              rw [momentsWithin] at hm
              split at hm
              · cases hm
              · exact hrecord _ _ _ m hm
            | _ => cases hm
      · split at hm
        · exact hrest _ hm
        · cases hm

lemma stands_of_mem_recording (room : Nat) (path : List String) (layout : String) (node : Node)
    (w : Walk) : ∀ m ∈ s.recording room path layout node w, s.Stands m := by
  induction room generalizing path layout node w with
  | zero => simp [recording]
  | succ room ih =>
    intro m hm
    rw [recording] at hm
    cases hs : s.script layout with
    | error e => simp [hs] at hm
    | ok script =>
      simp only [hs] at hm
      split at hm
      · cases hm
      · exact stands_of_mem_momentsFrom (ih _) rfl [] hs rfl hm

end Setting

def Moment.Performs (lookup : Lookup) (m : Moment) (call : Call) : Prop :=
  ofCall call = .ok m.command ∧ ∃ layout lines text, m.path.head? = some layout ∧
    lookup .layout layout = .ok lines ∧ lines[m.line]? = some text ∧
    Call.parse text = .ok (some call)

lemma performs_of_stands {lookup : Lookup} {options : Options} {root : String} {m : Moment}
    (h : (settingOf lookup options root).Stands m) : ∃ call, m.Performs lookup call := by
  obtain ⟨layout, script, hpath, hs, hline⟩ := h
  simp only [settingOf, scripts] at hs
  split at hs
  · rename_i lines hlines
    obtain rfl := Except.ok.inj hs
    rw [List.getElem?_map] at hline
    obtain ⟨text, htext, hd⟩ := Option.map_eq_some_iff.1 hline
    obtain ⟨call?, hcall, hd⟩ := ok_of_bind hd
    cases call? with
    | none => cases hd
    | some call =>
      obtain ⟨d, hof, hd⟩ := ok_of_bind hd
      obtain rfl := Option.some.inj (Except.ok.inj hd)
      exact ⟨call, hof, layout, lines, text, hpath, hlines, htext, hcall⟩
  · cases hs

lemma list?_of_listArgument? {a : Arg} (ha : listArgument? c = some a) (h : ofCall c = .ok d) :
    ∃ list, namedList? a = some list ∧ d.list? = some list := by
  rw [listArgument?] at ha
  split at ha
  · rename_i hn
    obtain ⟨a', list, ha', hname, hd⟩ := lists_of_ofCall hn h
    obtain rfl := Option.some.inj (ha.symm.trans ha')
    exact ⟨list, hname, hd⟩
  · cases ha

lemma listArgument?_of_list? {list : String} (h : ofCall c = .ok d) (hd : d.list? = some list) :
    ∃ a, listArgument? c = some a ∧ namedList? a = some list := by
  by_cases hn : c.name ∈ listingCalls
  · obtain ⟨a, list', ha, hname, hd'⟩ := lists_of_ofCall hn h
    obtain rfl := Option.some.inj (hd.symm.trans hd')
    exact ⟨a, by rw [listArgument?, if_pos hn, ha], hname⟩
  · cases hd.symm.trans (silent_ofCall hn d h)

namespace Options

variable {o : Options}

lemma null_zero_iff : o.Null (.int 0) ↔ o.nullName = "NULL" := by
  simp [Null, namedList?, eq_comm]

lemma null_symbol_iff : o.Null (.symbol o.nullName) ↔
    Text.trim (dropAddressOf o.nullName) = o.nullName.toList := by
  rw [Null, namedList?, Option.some.injEq]
  exact ⟨fun h => by rw [← String.toList_ofList (l := Text.trim _), h],
    fun h => by rw [h, String.ofList_toList]⟩

end Options

/--
The null list is never placed. An argument names it by its name, unless that starts with `&` or
blanks, and by a zero, if that name is NULL. A command with such an argument places nothing in any
state, and every placement of a run comes from a line whose argument names its list and is no such.
-/
theorem interpret_passes_null (lookup : Lookup) (animation : Option Animation) (options : Options)
    (root : String) :
    let s := settingOf lookup options root
    let moments := s.moments root
      (animation.map fun animation => { animation, frame := options.frame })
    (options.Null (.int 0) ↔ options.nullName = "NULL") ∧
    (options.Null (.symbol options.nullName) ↔
      Text.trim (dropAddressOf options.nullName) = options.nullName.toList) ∧
    (∀ call a d, listArgument? call = some a → options.Null a → ofCall call = .ok d →
      ∀ branch sc w, ∃ sc' w', s.exec branch (sc, w) d = .ok (sc', w') ∧
        w'.placements = w.placements) ∧
    ∀ placements, (interpret lookup animation options root).1 = .ok placements →
      placements = moments.flatMap s.placed ∧ ∀ m ∈ moments, ∃ call, m.Performs lookup call ∧
        ∀ p ∈ s.placed m, ∃ a, listArgument? call = some a ∧ namedList? a = some p.list ∧
          ¬options.Null a := by
  intro s moments
  refine ⟨Options.null_zero_iff, Options.null_symbol_iff, fun call a d ha hn hd => ?_,
    fun placements h => ?_⟩
  · obtain ⟨list, hname, hlist⟩ := list?_of_listArgument? ha hd
    obtain rfl := Option.some.inj (hn.symm.trans hname)
    exact s.exec_of_null hlist
  · rw [interpret_eq] at h
    split at h
    · rename_i w hw
      obtain rfl := Except.ok.inj h
      refine ⟨s.lasting_placed.runRoot hw, fun m hm => ?_⟩
      obtain ⟨call, hcall⟩ := performs_of_stands (Setting.stands_of_mem_recording _ _ _ _ _ m hm)
      refine ⟨call, hcall, fun p hp => ?_⟩
      obtain ⟨hlist, hne⟩ := Setting.list_of_mem_placed hp
      obtain ⟨a, ha, hname⟩ := listArgument?_of_list? hcall.1 hlist
      exact ⟨a, ha, hname, fun hn => hne (Option.some.inj (hname.symm.trans hn))⟩
    · cases h

def attic : Sources where
  layouts := .ofList
    [("attic", ["GEO_SCALE_WITH_DL(LAYER_OPAQUE, 0x8000, NONE)", "GEO_BRANCH(1, NONE)",
      "GEO_ANIMATED_PART(LAYER_ALPHA, 0, 5, 0, &NONE)", "GEO_DISPLAY_LIST(LAYER_OPAQUE, lamp)"])]

theorem interpret_passes_null_attic :
    let options : Options := { nullName := "NONE" }
    let s := settingOf attic.lookup options "attic"
    let call : Call := ⟨"GEO_DISPLAY_LIST", [.symbol "LAYER_OPAQUE", .symbol "NONE"]⟩
    (ofCall call = .ok (.displayList .solid "NONE") ∧ ∀ branch sc w, ∃ sc' w',
      s.exec branch (sc, w) (.displayList .solid "NONE") = .ok (sc', w') ∧
        w'.placements = w.placements) ∧
    ∃ placements, (interpret attic.lookup none options "attic").1 = .ok placements ∧
      placements.map (·.list) = ["lamp"] ∧
      placements = (s.moments "attic" none).flatMap s.placed := by
  intro options s call
  obtain ⟨-, hsymbol, hexec, hrun⟩ := interpret_passes_null attic.lookup none options "attic"
  have hcall : ofCall call = .ok (.displayList .solid "NONE") := rfl
  have hnull : options.Null (.symbol "NONE") := hsymbol.2 (by decide)
  refine ⟨⟨hcall, hexec call (.symbol "NONE") _ rfl hnull hcall⟩, ?_⟩
  have lamp : (interpret attic.lookup none options "attic").1.toOption.map (·.map (·.list)) =
      some ["lamp"] := by
    decide +kernel
  obtain ⟨placements, hok, hl⟩ := toOption_map_eq_some_iff.1 lamp
  exact ⟨placements, hok, hl, (hrun placements hok).1⟩

theorem zero_is_placed :
    let sources : Sources :=
      { layouts := .ofList [("root", ["GEO_DISPLAY_LIST(LAYER_OPAQUE, 0)"])] }
    let call : Call := ⟨"GEO_DISPLAY_LIST", [.symbol "LAYER_OPAQUE", .int 0]⟩
    (Call.parse "GEO_DISPLAY_LIST(LAYER_OPAQUE, 0)").toOption = some (some call) ∧
      listArgument? call = some (.int 0) ∧
      (interpret sources.lookup none { nullName := "NONE" } "root").1.toOption.map
        (·.map (·.list)) = some ["NULL"] :=
  ⟨by decide +kernel, rfl, by decide +kernel⟩

end SceneDraw.Layout
