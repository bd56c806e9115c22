import Mathlib.Tactic.SplitIfs
import SceneDraw.Proofs.Basic
import SceneDraw.Scene.Compile

/-! The results of a compiler, without its session. A session is sound if its cache holds only what
drawing anew gives. From a sound session, every step of the compiler gives the result without
session and leaves a sound session, whether it succeeds, skips or fails. A run is a sequence of jobs
of one compiler. -/

namespace SceneDraw.Scene

open DisplayList (Batch)
open Layout (Placement)

namespace Compiler

variable (c : Compiler)

def list (name : String) : Except DisplayList.Error (List Batch) :=
  (DisplayList.interpret c.setting name).1

def item (index : Nat) (transform : Matrix) (p : Placement) : Except Error (Option DrawItem) :=
  match c.list p.list with
  | .error e => if c.skipping && e.isResolution then .ok none else .error (.displayList e)
  | .ok batches =>
    match batches.mapM c.bindTexture with
    | .error e => .error (.displayList e)
    | .ok textures =>
      .ok (some
        { object := index
          list := p.list
          layer := p.layer
          transform := transform * p.transform
          zBuffer := p.zBuffer
          billboard := p.billboard
          batches, textures })

structure Shows (index : Nat) (transform : Matrix) (p : Placement) (d : DrawItem) : Prop where
  object : d.object = index
  list : d.list = p.list
  layer : d.layer = p.layer
  transform : d.transform = transform * p.transform
  zBuffer : d.zBuffer = p.zBuffer
  billboard : d.billboard = p.billboard
  batches : (DisplayList.interpret c.setting p.list).1 = .ok d.batches
  textures : List.Forall₂ (fun b t => c.bindTexture b = .ok t) d.batches d.textures

def items (index : Nat) (transform : Matrix) (ps : List Placement) :
    Except Error (List DrawItem) :=
  (ps.mapM (c.item index transform)).map (·.flatMap Option.toList)

def motion (m : Model) : Except Error (Option Layout.Animation) :=
  match m.animation with
  | none => .ok none
  | some name =>
    match c.assets.animations.find? name with
    | some a => .ok (some a)
    | none => if c.skipping then .ok none else .error (.missingAnimation name)

def placements (m : Model) (animation : Option Layout.Animation) : Except Error (List Placement) :=
  (Layout.interpret c.assets.sources.lookup animation c.config.layoutOptions m.layout).1.mapError
    .layout

def object (index : Nat) (o : Object) : Except Error (List DrawItem) :=
  match c.assets.models.find? o.model with
  | none => .error (.unknownModel o.model)
  | some m => do
    let animation ← c.motion m
    let placements ← c.placements m animation
    c.items index o.transform placements

def scene : Nat → List Object → Compiled → Except Error Compiled
  | _, [], done => .ok done
  | index, o :: os, done =>
    match c.object index o with
    | .ok items => scene (index + 1) os { done with items := done.items ++ items }
    | .error e =>
      if c.skipping then
        scene (index + 1) os
          { done with skipped := done.skipped ++ [⟨index, o.model, e.message⟩] }
      else .error e

def Sound (s : Session) : Prop :=
  ∀ name batches, s.cache.find? name = some batches → c.list name = .ok batches

def Gives {ε α : Type} (f : Step ε α) (r : Except ε α) : Prop :=
  ∀ s, c.Sound s → (f s).1 = r ∧ c.Sound (f s).2

variable {c : Compiler} {s : Session}

lemma sound_initial (c : Compiler) : c.Sound {} := by
  intro name batches h
  simp [KeyMap.find?_empty] at h

lemma Sound.insert (h : c.Sound s) {name : String} {batches : List Batch} {log : Log}
    (hl : c.list name = .ok batches) : c.Sound ⟨s.cache.insert name batches, log⟩ := by
  intro other found hf
  rw [KeyMap.find?_insert] at hf
  split_ifs at hf with he
  · rw [← he, hl, Option.some.inj hf]
  · exact h other found hf

lemma displayList_gives (c : Compiler) (name : String) :
    c.Gives (c.displayList name) (c.list name) := by
  intro s h
  rw [displayList]
  cases hk : if c.config.memoize then s.cache.find? name else none with
  | some batches =>
    have hf : s.cache.find? name = some batches := by
      split_ifs at hk
      exact hk
    exact ⟨(h name batches hf).symm, h⟩
  | none =>
    have hl : c.list name = (DisplayList.interpret c.setting name).1 := rfl
    rcases hr : DisplayList.interpret c.setting name with ⟨e | batches, log⟩
    · exact ⟨(hl.trans (by rw [hr])).symm, h⟩
    · rw [hr] at hl
      refine ⟨hl.symm, ?_⟩
      dsimp only
      split_ifs
      · exact h.insert hl
      · exact h

lemma compilePlacement_gives (c : Compiler) (index : Nat) (transform : Matrix) (p : Placement) :
    c.Gives (c.compilePlacement index transform p) (c.item index transform p) := by
  intro s h
  obtain ⟨hl, hs⟩ := displayList_gives c p.list s h
  rw [compilePlacement, item, ← hl]
  rcases hr : c.displayList p.list s with ⟨e | batches, s'⟩
  · rw [hr] at hs
    dsimp only
    split_ifs <;> exact ⟨rfl, hs⟩
  · rw [hr] at hs
    dsimp only
    cases batches.mapM c.bindTexture <;> exact ⟨rfl, hs⟩

lemma item_cases {index : Nat} {transform : Matrix} {p : Placement} {r : Option DrawItem}
    (h : c.item index transform p = .ok r) :
    (∃ d, r = some d ∧ c.Shows index transform p d) ∨
      r = none ∧ c.skipping ∧ ∃ e, c.list p.list = .error e ∧ e.isResolution := by
  rw [item] at h
  cases hl : c.list p.list with
  | error e =>
    simp only [hl] at h
    split_ifs at h with hs
    obtain ⟨hs, he⟩ : c.skipping ∧ e.isResolution := by simpa using hs
    exact .inr ⟨(Except.ok.inj h).symm, hs, e, rfl, he⟩
  | ok batches =>
    simp only [hl] at h
    cases ht : batches.mapM c.bindTexture with
    | error e => simp [ht] at h
    | ok textures =>
      simp only [ht] at h
      exact .inl ⟨_, (Except.ok.inj h).symm, rfl, rfl, rfl, rfl, rfl, rfl, hl,
        mapM_eq_ok_iff.1 ht⟩

lemma items_cons (c : Compiler) (index : Nat) (transform : Matrix) (p : Placement)
    (ps : List Placement) :
    c.items index transform (p :: ps) = do
      let item ← c.item index transform p
      let items ← c.items index transform ps
      return item.toList ++ items := by
  rw [items, items, List.mapM_cons]
  cases c.item index transform p with
  | error e => rfl
  | ok item => cases ps.mapM (c.item index transform) <;> rfl

lemma items_eq_error_iff_mapM {index : Nat} {transform : Matrix} {ps : List Placement} {e : Error} :
    c.items index transform ps = .error e ↔ ps.mapM (c.item index transform) = .error e := by
  rw [items]
  cases ps.mapM (c.item index transform) <;> simp [Except.map]

lemma compilePlacements_gives (c : Compiler) (index : Nat) (transform : Matrix)
    (ps : List Placement) :
    c.Gives (c.compilePlacements index transform ps) (c.items index transform ps) := by
  induction ps with
  | nil => exact fun s h => ⟨rfl, h⟩
  | cons p ps ih =>
    intro s h
    obtain ⟨hp, hs⟩ := compilePlacement_gives c index transform p s h
    rw [compilePlacements, items_cons, ← hp]
    rcases hr : c.compilePlacement index transform p s with ⟨e | item, s'⟩
    · rw [hr] at hs
      exact ⟨rfl, hs⟩
    · rw [hr] at hs
      obtain ⟨hps, hs⟩ := ih s' hs
      rw [← hps]
      dsimp only
      rcases hr : c.compilePlacements index transform ps s' with ⟨e | items, s''⟩ <;>
        rw [hr] at hs <;> exact ⟨rfl, hs⟩

lemma animation_gives (c : Compiler) (m : Model) : c.Gives (c.animation m) (c.motion m) := by
  intro s h
  rw [animation, motion]
  cases m.animation with
  | none => exact ⟨rfl, h⟩
  | some name =>
    dsimp only
    cases c.assets.animations.find? name with
    | some a => exact ⟨rfl, h⟩
    | none =>
      dsimp only
      split_ifs <;> exact ⟨rfl, h⟩

lemma compileObject_gives (c : Compiler) (index : Nat) (o : Object) :
    c.Gives (c.compileObject index o) (c.object index o) := by
  intro s h
  rw [compileObject, object]
  cases c.assets.models.find? o.model with
  | none => exact ⟨rfl, h⟩
  | some m =>
    obtain ⟨hm, hs⟩ := animation_gives c m s h
    dsimp only
    rw [← hm]
    rcases hr : c.animation m s with ⟨e | animation, s'⟩
    · rw [hr] at hs
      exact ⟨rfl, hs⟩
    · rw [hr] at hs
      change _ = c.placements m animation >>= c.items index o.transform ∧ _
      rcases hi : Layout.interpret c.assets.sources.lookup animation c.config.layoutOptions
        m.layout with ⟨e | placements, log⟩
      · simp only [placements, hi]
        exact ⟨rfl, hs⟩
      · obtain ⟨hp, hs⟩ := compilePlacements_gives c index o.transform placements
          { s' with log := s'.log ++ log } hs
        simp only [Compiler.placements, hi]
        rcases hr : c.compilePlacements index o.transform placements
          { s' with log := s'.log ++ log } with ⟨e | items, s''⟩ <;>
          rw [hr] at hp hs <;> exact ⟨hp, hs⟩

lemma compileFrom_gives (c : Compiler) (index : Nat) (os : List Object) (done : Compiled) :
    c.Gives (c.compileFrom index os done) (c.scene index os done) := by
  induction os generalizing index done with
  | nil => exact fun s h => ⟨rfl, h⟩
  | cons o os ih =>
    intro s h
    obtain ⟨ho, hs⟩ := compileObject_gives c index o s h
    rw [compileFrom, scene, ← ho]
    rcases hr : c.compileObject index o s with ⟨e | items, s'⟩
    · rw [hr] at hs
      dsimp only
      split_ifs
      · exact ih _ _ _ hs
      · exact ⟨rfl, hs⟩
    · rw [hr] at hs
      exact ih _ _ s' hs

lemma compile_gives (c : Compiler) (os : List Object) :
    c.Gives (c.compile os) (c.scene 0 os {}) := by
  intro s h
  obtain ⟨hr, hs⟩ := compileFrom_gives c 0 os {} s h
  rw [compile, ← hr]
  rcases hr : c.compileFrom 0 os {} s with ⟨e | scene, s'⟩ <;> rw [hr] at hs <;> exact ⟨rfl, hs⟩

end Compiler

inductive Job
  | list (name : String)
  | object (index : Nat) (o : Object)
  | scene (os : List Object)

inductive Answer
  | list (result : Except DisplayList.Error (List Batch))
  | object (result : Except Error (List DrawItem))
  | scene (result : Except Error Compiled)

namespace Compiler

variable (c : Compiler)

def answer : Job → Answer
  | .list name => .list (c.list name)
  | .object index o => .object (c.object index o)
  | .scene os => .scene (c.scene 0 os {})

def perform (s : Session) : Job → Answer × Session
  | .list name => (c.displayList name s).map .list id
  | .object index o => (c.compileObject index o s).map .object id
  | .scene os => (c.compile os s).map .scene id

def run : List Job → Session → List Answer × Session
  | [], s => ([], s)
  | job :: jobs, s =>
    let (answer, s) := c.perform s job
    let (answers, s) := run jobs s
    (answer :: answers, s)

variable {c} {s : Session}

lemma perform_answer (h : c.Sound s) (job : Job) :
    (c.perform s job).1 = c.answer job ∧ c.Sound (c.perform s job).2 := by
  cases job with
  | list name =>
    obtain ⟨hr, hs⟩ := displayList_gives c name s h
    exact ⟨congrArg Answer.list hr, hs⟩
  | object index o =>
    obtain ⟨hr, hs⟩ := compileObject_gives c index o s h
    exact ⟨congrArg Answer.object hr, hs⟩
  | scene os =>
    obtain ⟨hr, hs⟩ := compile_gives c os s h
    exact ⟨congrArg Answer.scene hr, hs⟩

lemma run_answers (h : c.Sound s) (jobs : List Job) :
    (c.run jobs s).1 = jobs.map c.answer ∧ c.Sound (c.run jobs s).2 := by
  induction jobs generalizing s with
  | nil => exact ⟨rfl, h⟩
  | cons job jobs ih =>
    obtain ⟨hr, hs⟩ := perform_answer h job
    obtain ⟨hrs, hs⟩ := ih hs
    exact ⟨congr (congrArg List.cons hr) hrs, hs⟩

end Compiler

def Compiler.orchard : Compiler where
  assets :=
    { sources :=
        { layouts := .ofList
            [("tree_geo",
                ["GEO_ANIMATED_PART(LAYER_OPAQUE, 1, 2, 3, tree_dl)", "GEO_BRANCH(1, crown_geo)"]),
              ("crown_geo", ["GEO_DISPLAY_LIST(LAYER_ALPHA, tree_dl)"])]
          displayLists := .ofList
            [("tree_dl",
              ["gsSPVertex(tree_vtx, 3, 0)", "gsSPLight(&sun.l, 1)",
                "gsDPSetTextureImage(G_IM_FMT_RGBA, G_IM_SIZ_16b, 1, bark)",
                "gsSPTexture(0xFFFF, 0xFFFF, 0, 0, G_ON)", "gsSP1Triangle(0, 1, 2, 0)"])] }
      vertices := .ofList
        [("tree_vtx", [0, 1, 2].map fun x => ⟨⟨x, 0, 0⟩, 0, ⟨0, 0⟩, ⟨0, 0, 0, 0⟩⟩)]
      lights := .ofList [("sun", ⟨⟨1, 1, 1⟩, [⟨⟨2, 2, 2⟩, ⟨0, 1, 0⟩⟩]⟩)]
      textures := .ofList [("bark", "bark.png")]
      animations := .ofList [("sway", {})]
      models := .ofList [("tree", ⟨"tree_geo", some "sway"⟩)] }
  config := {}

end SceneDraw.Scene
