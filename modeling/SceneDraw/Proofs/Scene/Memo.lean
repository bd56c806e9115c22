import Mathlib.Data.List.Dedup
import SceneDraw.Proofs.Scene.Result

/-! What a compiler has in its cache is what it has successfully drawn, and nothing that it answers
depends on it. The requests of a run are the display lists that the compiler is asked for, directly
or for placements, each with its answer. A step learns the lists of its requests that were drawn. -/

namespace SceneDraw.Scene

open DisplayList (Batch)
open Layout (Placement)

structure Request where
  name : String
  answer : Except DisplayList.Error (List Batch)

namespace Compiler

variable (c : Compiler)

def listRequest (name : String) (s : Session) : Request := ⟨name, (c.displayList name s).1⟩

def placementRequests (index : Nat) (transform : Matrix) : List Placement → Session → List Request
  | [], _ => []
  | p :: ps, s =>
    c.listRequest p.list s ::
      match c.compilePlacement index transform p s with
      | (.error _, _) => []
      | (.ok _, s) => placementRequests index transform ps s

def objectRequests (index : Nat) (o : Object) (s : Session) : List Request :=
  match c.assets.models.find? o.model with
  | none => []
  | some m =>
    match c.animation m s with
    | (.error _, _) => []
    | (.ok animation, s) =>
      let (placements, log) := Layout.interpret c.assets.sources.lookup animation
        c.config.layoutOptions m.layout
      match placements with
      | .error _ => []
      | .ok placements =>
        c.placementRequests index o.transform placements { s with log := s.log ++ log }

def sceneRequests : Nat → List Object → Session → List Request
  | _, [], _ => []
  | index, o :: os, s =>
    c.objectRequests index o s ++
      match c.compileFrom index [o] {} s with
      | (.error _, _) => []
      | (.ok _, s) => sceneRequests (index + 1) os s

def jobRequests (s : Session) : Job → List Request
  | .list name => [c.listRequest name s]
  | .object index o => c.objectRequests index o s
  | .scene os => c.sceneRequests 0 os s

def requests : List Job → Session → List Request
  | [], _ => []
  | job :: jobs, s => c.jobRequests s job ++ requests jobs (c.perform s job).2

end Compiler

def Session.Learns (s t : Session) (rs : List Request) : Prop :=
  ∀ name, (t.cache.find? name).isSome ↔
    (s.cache.find? name).isSome ∨ ∃ r ∈ rs, r.name = name ∧ r.answer.isOk

namespace Session

variable {s t u : Session} {rs : List Request}

lemma learns_of_cache_eq (h : t.cache = s.cache) : s.Learns t [] := by
  intro name
  simp [h]

lemma Learns.of_cache_eq (h : s.Learns t rs) (hu : u.cache = t.cache) : s.Learns u rs := by
  intro name
  rw [hu, h name]

lemma Learns.trans {rs' : List Request} (h : s.Learns t rs) (h' : t.Learns u rs') :
    s.Learns u (rs ++ rs') := by
  intro name
  simp [h' name, h name, or_and_right, exists_or, or_assoc]

end Session

namespace Compiler

variable {c : Compiler}

lemma displayList_learns (hm : c.config.memoize) (name : String) (s : Session) :
    s.Learns (c.displayList name s).2 [c.listRequest name s] := by
  intro other
  rw [listRequest, displayList, if_pos hm]
  cases hk : s.cache.find? name with
  | some batches =>
    have hn : name = other → (s.cache.find? other).isSome := by
      rintro rfl
      simp [hk]
    simpa [Except.isOk, Except.toBool] using hn
  | none =>
    rcases hr : DisplayList.interpret c.setting name with ⟨e | batches, log⟩
    · simp [Except.isOk, Except.toBool]
    · by_cases hn : name = other <;> simp [hm, KeyMap.find?_insert, hn, Except.isOk, Except.toBool]

lemma compilePlacement_cache (index : Nat) (transform : Matrix) (p : Placement) (s : Session) :
    (c.compilePlacement index transform p s).2.cache = (c.displayList p.list s).2.cache := by
  rw [compilePlacement]
  rcases c.displayList p.list s with ⟨e | batches, s'⟩
  · dsimp only
    split_ifs <;> rfl
  · dsimp only
    cases batches.mapM c.bindTexture <;> rfl

lemma compilePlacements_learns (hm : c.config.memoize) (index : Nat) (transform : Matrix)
    (ps : List Placement) (s : Session) :
    s.Learns (c.compilePlacements index transform ps s).2
      (c.placementRequests index transform ps s) := by
  induction ps generalizing s with
  | nil => exact Session.learns_of_cache_eq rfl
  | cons p ps ih =>
    have hp := (displayList_learns hm p.list s).of_cache_eq
      (compilePlacement_cache index transform p s)
    rw [compilePlacements, placementRequests]
    rcases hr : c.compilePlacement index transform p s with ⟨e | item, s'⟩
    · rw [hr] at hp
      exact hp
    · rw [hr] at hp
      have hps := hp.trans (ih s')
      dsimp only
      rcases hr : c.compilePlacements index transform ps s' with ⟨e | items, s''⟩ <;>
        rw [hr] at hps <;> exact hps

lemma animation_cache (c : Compiler) (m : Model) (s : Session) :
    (c.animation m s).2.cache = s.cache := by
  rw [animation]
  cases m.animation with
  | none => rfl
  | some name =>
    dsimp only
    cases c.assets.animations.find? name with
    | some a => rfl
    | none =>
      dsimp only
      split_ifs <;> rfl

lemma compileObject_learns (hm : c.config.memoize) (index : Nat) (o : Object) (s : Session) :
    s.Learns (c.compileObject index o s).2 (c.objectRequests index o s) := by
  rw [compileObject, objectRequests]
  cases c.assets.models.find? o.model with
  | none => exact Session.learns_of_cache_eq rfl
  | some m =>
    have ha := Session.learns_of_cache_eq (animation_cache c m s)
    dsimp only
    rcases hr : c.animation m s with ⟨e | animation, s'⟩
    · rw [hr] at ha
      exact ha
    · rw [hr] at ha
      dsimp only
      rcases Layout.interpret c.assets.sources.lookup animation c.config.layoutOptions m.layout with
        ⟨e | placements, log⟩
      · exact ha
      · have hp := ha.trans (compilePlacements_learns hm index o.transform placements
          { s' with log := s'.log ++ log })
        dsimp only
        rcases hr : c.compilePlacements index o.transform placements
          { s' with log := s'.log ++ log } with ⟨e | items, s''⟩ <;>
          rw [hr] at hp <;> exact hp

lemma compileFrom_learns (hm : c.config.memoize) (index : Nat) (os : List Object) (done : Compiled)
    (s : Session) :
    s.Learns (c.compileFrom index os done s).2 (c.sceneRequests index os s) := by
  induction os generalizing index done s with
  | nil => exact Session.learns_of_cache_eq rfl
  | cons o os ih =>
    have ho := compileObject_learns hm index o s
    simp only [compileFrom, sceneRequests]
    rcases hr : c.compileObject index o s with ⟨e | items, s'⟩
    · rw [hr] at ho
      dsimp only
      split_ifs
      · exact ho.trans (ih _ _ _)
      · simpa using ho
    · rw [hr] at ho
      exact ho.trans (ih _ _ s')

lemma perform_learns (hm : c.config.memoize) (job : Job) (s : Session) :
    s.Learns (c.perform s job).2 (c.jobRequests s job) := by
  cases job with
  | list name => exact displayList_learns hm name s
  | object index o => exact compileObject_learns hm index o s
  | scene os =>
    have h := compileFrom_learns hm 0 os {} s
    rw [perform, compile, jobRequests]
    rcases hr : c.compileFrom 0 os {} s with ⟨e | scene, s'⟩ <;> rw [hr] at h <;> exact h

lemma run_learns (hm : c.config.memoize) (jobs : List Job) (s : Session) :
    s.Learns (c.run jobs s).2 (c.requests jobs s) := by
  induction jobs generalizing s with
  | nil => exact Session.learns_of_cache_eq rfl
  | cons job jobs ih => exact (perform_learns hm job s).trans (ih _)

end Compiler

def drawnNames (rs : List Request) : List String :=
  ((rs.filter (·.answer.isOk)).map (·.name)).dedup

lemma cached_eq {s : Session} {rs : List Request} (h : Session.Learns {} s rs) :
    s.cached = (drawnNames rs).length := by
  have hp : s.cache.keys.Perm (drawnNames rs) := by
    refine (List.perm_ext_iff_of_nodup s.cache.nodup_keys (List.nodup_dedup _)).2 fun name => ?_
    simp only [KeyMap.mem_keys, h name, KeyMap.find?_empty, List.mem_dedup, List.mem_map,
      List.mem_filter, Option.isSome_none, Bool.false_eq_true, false_or]
    constructor
    · rintro ⟨r, hr, hn, ho⟩
      exact ⟨r, ⟨hr, ho⟩, hn⟩
    · rintro ⟨r, ⟨hr, ho⟩, hn⟩
      exact ⟨r, hr, hn, ho⟩
  have hl : s.cached = s.cache.keys.length := by simp [Session.cached, KeyMap.size, KeyMap.keys]
  exact hl.trans hp.length_eq

def Compiler.memoizing (c : Compiler) (memoize : Bool) : Compiler :=
  { c with config := { c.config with memoize } }

lemma scene_memoizing (c : Compiler) (memoize : Bool) (index : Nat) (os : List Object)
    (done : Compiled) : (c.memoizing memoize).scene index os done = c.scene index os done := by
  induction os generalizing index done with
  | nil => rfl
  | cons o os ih =>
    have ho : (c.memoizing memoize).object index o = c.object index o := rfl
    have hs : (c.memoizing memoize).skipping = c.skipping := rfl
    simp only [Compiler.scene, ho, hs, ih]

lemma answer_memoizing (c : Compiler) (memoize : Bool) :
    (c.memoizing memoize).answer = c.answer := by
  funext job
  cases job with
  | list name => rfl
  | object index o => rfl
  | scene os => exact congrArg Answer.scene (scene_memoizing c memoize 0 os {})

theorem run_memoizing (c : Compiler) (jobs : List Job) :
    let s := ((c.memoizing true).run jobs {}).2
    ((c.memoizing true).run jobs {}).1 = ((c.memoizing false).run jobs {}).1 ∧
      (∀ name batches, s.cache.find? name = some batches →
        (DisplayList.interpret c.setting name).1 = .ok batches) ∧
      (∀ name e, (DisplayList.interpret c.setting name).1 = .error e →
        s.cache.find? name = none) ∧
      s.cached = (drawnNames ((c.memoizing true).requests jobs {})).length := by
  intro s
  obtain ⟨hm, hs⟩ := Compiler.run_answers (Compiler.sound_initial (c.memoizing true)) jobs
  obtain ⟨hp, -⟩ := Compiler.run_answers (Compiler.sound_initial (c.memoizing false)) jobs
  refine ⟨?_, hs, ?_, cached_eq (Compiler.run_learns rfl jobs {})⟩
  · rw [hm, hp, answer_memoizing, answer_memoizing]
  · intro name e he
    by_contra hn
    obtain ⟨batches, hb⟩ := Option.ne_none_iff_exists'.1 hn
    cases (hs name batches hb).symm.trans he

theorem run_memoizing_orchard :
    let jobs : List Job := [.list "tree_dl", .list "bush_dl", .scene [{ model := "tree" }]]
    let memoizing := Compiler.orchard.memoizing true
    let s := (memoizing.run jobs {}).2
    (memoizing.run jobs {}).1 = ((Compiler.orchard.memoizing false).run jobs {}).1 ∧
      (drawnNames (memoizing.requests jobs {})).length = 1 ∧ s.cached = 1 ∧
      s.cache.find? "bush_dl" = none ∧ ∃ batches, s.cache.find? "tree_dl" = some batches ∧
        (DisplayList.interpret memoizing.setting "tree_dl").1 = .ok batches := by
  intro jobs memoizing s
  obtain ⟨same, sound, failed, cached⟩ := run_memoizing Compiler.orchard jobs
  have one : (drawnNames (memoizing.requests jobs {})).length = 1 := by decide +kernel
  have found : (s.cache.find? "tree_dl").isSome = true := by decide +kernel
  obtain ⟨batches, hb⟩ := Option.isSome_iff_exists.1 found
  exact ⟨same, one, cached.trans one, failed "bush_dl" _ rfl, batches, hb, sound "tree_dl" batches hb⟩

end SceneDraw.Scene
