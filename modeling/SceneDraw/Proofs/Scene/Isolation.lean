import Mathlib.Data.List.Basic
import SceneDraw.Proofs.Scene.Result

/-! Each object of a scene comes out as it does alone, whatever the other objects are and whatever
was compiled before. The items that are kept and the objects that are dropped are keyed by the
position of the object, which is all that they take from the scene. -/

namespace SceneDraw.Scene

open Layout (Placement)

section

variable {α β : Type} {f : α × Nat → List β} {key : β → Nat}

def Keyed (f : α × Nat → List β) (key : β → Nat) : Prop := ∀ p, ∀ x ∈ f p, key x = p.2

lemma Keyed.bounds (h : Keyed f key) {as : List α} {k : Nat} {x : β}
    (hx : x ∈ (as.zipIdx k).flatMap f) : k ≤ key x ∧ key x < k + as.length := by
  obtain ⟨p, hp, hx⟩ := List.mem_flatMap.1 hx
  obtain ⟨hl, hu, -⟩ := List.mem_zipIdx hp
  rw [h p x hx]
  exact ⟨hl, by omega⟩

lemma Keyed.filter_flatMap (h : Keyed f key) (as : List α) (k i : Nat) (hi : i < as.length) :
    ((as.zipIdx k).flatMap f).filter (key · == k + i) = f (as[i], k + i) := by
  induction as generalizing k i with
  | nil => cases hi
  | cons a as ih =>
    rw [List.zipIdx_cons, List.flatMap_cons, List.filter_append]
    cases i with
    | zero =>
      have hf : (f (a, k)).filter (key · == k + 0) = f (a, k) :=
        List.filter_eq_self.2 fun x hx => by simpa using h (a, k) x hx
      have hr : ((as.zipIdx (k + 1)).flatMap f).filter (key · == k + 0) = [] := by
        refine List.filter_eq_nil_iff.2 fun x hx => ?_
        have := (h.bounds hx).1
        simp
        omega
      rw [hf, hr, List.append_nil]
      rfl
    | succ i =>
      have hf : (f (a, k)).filter (key · == k + (i + 1)) = [] := by
        refine List.filter_eq_nil_iff.2 fun x hx => ?_
        have := h (a, k) x hx
        simp
        omega
      have hi : i < as.length := by simpa using hi
      rw [hf, List.nil_append, List.getElem_cons_succ, show k + (i + 1) = k + 1 + i by omega]
      exact ih (k + 1) i hi

lemma Keyed.filter_zipIdx (h : Keyed f key) (as : List α) {i : Nat} (hi : i < as.length) :
    (as.zipIdx.flatMap f).filter (key · == i) = f (as[i], i) := by
  simpa using h.filter_flatMap as 0 i hi

lemma Keyed.forall_ne (h : Keyed f key) (as : List α) {i : Nat} (hi : i < as.length)
    (hf : f (as[i], i) = []) : ∀ x ∈ as.zipIdx.flatMap f, key x ≠ i := by
  have hn := h.filter_zipIdx as hi
  rw [hf, List.filter_eq_nil_iff] at hn
  intro x hx
  simpa using hn x hx

lemma Keyed.pairwise_flatMap {R : β → β → Prop} (h : Keyed f key)
    (hR : ∀ x y, key x < key y → R x y) (hf : ∀ p, (f p).Pairwise R) (as : List α) (k : Nat) :
    ((as.zipIdx k).flatMap f).Pairwise R := by
  have hz : (as.zipIdx k).Pairwise fun p q => p.2 < q.2 := by
    rw [← List.pairwise_map (f := Prod.snd) (R := (· < ·)), List.zipIdx_map_snd]
    exact List.pairwise_lt_range'
  refine List.pairwise_flatMap.2 ⟨fun p _ => hf p, hz.imp fun {p q} hlt x hx y hy => hR x y ?_⟩
  rwa [h p x hx, h q y hy]

end

namespace Compiler

variable (c : Compiler)

def kept (p : Object × Nat) : List DrawItem :=
  match c.object p.2 p.1 with
  | .ok items => items
  | .error _ => []

def dropped (p : Object × Nat) : List Skipped :=
  match c.object p.2 p.1 with
  | .ok _ => []
  | .error e => [⟨p.2, p.1.model, e.message⟩]

variable {c}

lemma scene_of_skipping (hs : c.skipping) (k : Nat) (os : List Object) (done : Compiled) :
    c.scene k os done = .ok
      { items := done.items ++ (os.zipIdx k).flatMap c.kept
        skipped := done.skipped ++ (os.zipIdx k).flatMap c.dropped } := by
  induction os generalizing k done with
  | nil => simp [scene]
  | cons o os ih =>
    rw [scene]
    cases ho : c.object k o <;> simp [hs, ih, kept, dropped, ho]

lemma scene_of_ok (k : Nat) (os : List Object) (done : Compiled)
    (h : ∀ j (hj : j < os.length), ∃ items, c.object (k + j) os[j] = .ok items) :
    c.scene k os done = .ok
      { done with items := done.items ++ (os.zipIdx k).flatMap c.kept } := by
  induction os generalizing k done with
  | nil => simp [scene]
  | cons o os ih =>
    obtain ⟨items, ho⟩ := h 0 (by simp)
    have ho : c.object k o = .ok items := ho
    rw [scene, ho]
    dsimp only
    rw [ih (k + 1)]
    · simp [kept, ho]
    · intro j hj
      simpa [Nat.add_assoc, Nat.add_comm 1] using h (j + 1) (Nat.succ_lt_succ hj)

lemma scene_of_error (hs : c.skipping = false) (k : Nat) (os : List Object) (done : Compiled)
    {i : Nat} (hi : i < os.length) {e : Error} (he : c.object (k + i) os[i] = .error e)
    (h : ∀ j (hj : j < i), ∃ items, c.object (k + j) os[j] = .ok items) :
    c.scene k os done = .error e := by
  induction os generalizing k i done with
  | nil => cases hi
  | cons o os ih =>
    rw [scene]
    cases i with
    | zero =>
      have ho : c.object k o = .error e := he
      simp [ho, hs]
    | succ i =>
      obtain ⟨items, ho⟩ := h 0 (by omega)
      have ho : c.object k o = .ok items := ho
      simp only [ho]
      refine ih (k + 1) _ (by simpa using hi) ?_ fun j hj => ?_
      · simpa [Nat.add_assoc, Nat.add_comm 1] using he
      · simpa [Nat.add_assoc, Nat.add_comm 1] using h (j + 1) (by omega)

end Compiler

def DrawItem.renumber (index : Nat) (d : DrawItem) : DrawItem := { d with object := index }

namespace Compiler

variable {c : Compiler}

lemma item_renumber (i j : Nat) (transform : Matrix) (p : Placement) :
    c.item j transform p = (c.item i transform p).map (Option.map (.renumber j)) := by
  rw [item, item]
  cases c.list p.list with
  | error e =>
    dsimp only
    split_ifs <;> rfl
  | ok batches =>
    dsimp only
    cases batches.mapM c.bindTexture <;> rfl

lemma items_renumber (i j : Nat) (transform : Matrix) (ps : List Placement) :
    c.items j transform ps = (c.items i transform ps).map (List.map (.renumber j)) := by
  induction ps with
  | nil => rfl
  | cons p ps ih =>
    rw [items_cons, items_cons, ih, item_renumber i j]
    cases c.item i transform p with
    | error e => rfl
    | ok item =>
      cases c.items i transform ps with
      | error e => rfl
      | ok items => cases item <;> rfl

lemma object_renumber (i j : Nat) (o : Object) :
    c.object j o = (c.object i o).map (List.map (.renumber j)) := by
  rw [object, object]
  cases c.assets.models.find? o.model with
  | none => rfl
  | some m =>
    dsimp only
    cases c.motion m with
    | error e => rfl
    | ok animation =>
      change (c.placements m animation >>= _) = (c.placements m animation >>= _).map _
      cases c.placements m animation with
      | error e => rfl
      | ok placements => exact items_renumber i j o.transform placements

lemma keyed_kept (c : Compiler) : Keyed c.kept (·.object) := by
  intro p d hd
  rw [kept] at hd
  have hr := object_renumber (c := c) p.2 p.2 p.1
  cases ho : c.object p.2 p.1 with
  | error e => simp [ho] at hd
  | ok items =>
    rw [ho] at hr hd
    rw [Except.ok.inj hr] at hd
    obtain ⟨d', -, rfl⟩ := List.mem_map.1 hd
    rfl

lemma keyed_dropped (c : Compiler) : Keyed c.dropped (·.object) := by
  intro p d hd
  rw [dropped] at hd
  cases ho : c.object p.2 p.1 with
  | ok items => simp [ho] at hd
  | error e =>
    rw [ho, List.mem_singleton] at hd
    rw [hd]

lemma pairwise_kept (c : Compiler) (os : List Object) :
    (os.zipIdx.flatMap c.kept).Pairwise (·.object ≤ ·.object) := by
  refine (keyed_kept c).pairwise_flatMap (fun _ _ => Nat.le_of_lt) (fun p => ?_) os 0
  refine List.pairwise_of_forall_mem_list fun d hd d' hd' => ?_
  exact Nat.le_of_eq ((keyed_kept c p d hd).trans (keyed_kept c p d' hd').symm)

lemma pairwise_dropped (c : Compiler) (os : List Object) :
    (os.zipIdx.flatMap c.dropped).Pairwise (·.object < ·.object) := by
  refine (keyed_dropped c).pairwise_flatMap (fun _ _ => id) (fun p => ?_) os 0
  rw [dropped]
  cases c.object p.2 p.1 with
  | ok items => exact .nil
  | error e => exact List.pairwise_singleton _ _

end Compiler

theorem compile_isolated (c : Compiler) (jobs : List Job) (os : List Object) :
    let result := (c.compile os (c.run jobs {}).2).1
    let alone (i : Nat) (o : Object) := (c.compileObject i o {}).1
    (c.config.policy = .skip → ∃ scene, result = .ok scene ∧
      scene.items.Pairwise (·.object ≤ ·.object) ∧ (∀ d ∈ scene.items, d.object < os.length) ∧
      scene.skipped.Pairwise (·.object < ·.object) ∧ (∀ k ∈ scene.skipped, k.object < os.length) ∧
      ∀ i (hi : i < os.length),
        match alone i os[i] with
        | .ok items =>
          scene.items.filter (·.object == i) = items ∧ ∀ k ∈ scene.skipped, k.object ≠ i
        | .error e =>
          (∀ d ∈ scene.items, d.object ≠ i) ∧
            scene.skipped.filter (·.object == i) = [⟨i, os[i].model, e.message⟩]) ∧
    (c.config.policy = .fail →
      (∀ i (hi : i < os.length) e, alone i os[i] = .error e →
        (∀ j (hj : j < i), ∃ items, alone j os[j] = .ok items) → result = .error e) ∧
      ((∀ i (hi : i < os.length), ∃ items, alone i os[i] = .ok items) →
        ∃ scene, result = .ok scene ∧ scene.skipped = [] ∧
          ∀ i (hi : i < os.length), alone i os[i] = .ok (scene.items.filter (·.object == i)))) ∧
    ∀ i j o, alone j o = (alone i o).map (List.map (.renumber j)) := by
  intro result alone
  have hr : result = c.scene 0 os {} :=
    (Compiler.compile_gives c os _ (Compiler.run_answers (Compiler.sound_initial c) jobs).2).1
  have ha (i : Nat) (o : Object) : alone i o = c.object i o :=
    (Compiler.compileObject_gives c i o {} (Compiler.sound_initial c)).1
  have hk := Compiler.keyed_kept c
  have hd := Compiler.keyed_dropped c
  simp only [ha, hr]
  refine ⟨fun hp => ?_, fun hp => ⟨fun i hi e he h => ?_, fun h => ?_⟩, Compiler.object_renumber⟩
  · have hs : c.skipping := by simp [Compiler.skipping, hp]
    refine ⟨_, Compiler.scene_of_skipping hs 0 os {}, ?_⟩
    simp only [List.nil_append]
    refine ⟨Compiler.pairwise_kept c os, fun d hx => by simpa using (hk.bounds hx).2,
      Compiler.pairwise_dropped c os, fun d hx => by simpa using (hd.bounds hx).2, fun i hi => ?_⟩
    cases ho : c.object i os[i] with
    | ok items =>
      exact ⟨by simp [hk.filter_zipIdx os hi, Compiler.kept, ho],
        hd.forall_ne os hi (by simp [Compiler.dropped, ho])⟩
    | error e =>
      exact ⟨hk.forall_ne os hi (by simp [Compiler.kept, ho]),
        by simp [hd.filter_zipIdx os hi, Compiler.dropped, ho]⟩
  · have hs : c.skipping = false := by simp [Compiler.skipping, hp]
    refine Compiler.scene_of_error hs 0 os {} hi ?_ ?_
    · simpa using he
    · simpa using h
  · refine ⟨_, Compiler.scene_of_ok 0 os {} (by simpa using h), rfl, fun i hi => ?_⟩
    obtain ⟨items, ho⟩ := h i hi
    simp [hk.filter_zipIdx os hi, Compiler.kept, ho]

theorem compile_isolated_orchard :
    let tree : Object := { model := "tree" }
    let bush : Object := { model := "bush" }
    let strict : Compiler := { Compiler.orchard with config := { policy := .fail } }
    (∃ scene items, (Compiler.orchard.compile [tree, bush, tree] {}).1 = .ok scene ∧
      (Compiler.orchard.compileObject 2 tree {}).1 = .ok items ∧ items.length = 2 ∧
      scene.items.filter (·.object == 2) = items ∧ ∀ d ∈ scene.items, d.object ≠ 1) ∧
    ∃ e, (strict.compileObject 1 bush {}).1 = .error e ∧
      (strict.compile [tree, bush, tree] {}).1 = .error e := by
  intro tree bush strict
  constructor
  · obtain ⟨scene, hs, -, -, -, -, alone⟩ :=
      (compile_isolated Compiler.orchard [] [tree, bush, tree]).1 rfl
    have bush_dropped := (alone 1 (by decide)).1
    have tree_kept := alone 2 (by decide)
    have two : (Compiler.orchard.compileObject 2 tree {}).1.toOption.map (·.length) = some 2 := by
      decide +kernel
    obtain ⟨items, hi, hlen⟩ := toOption_map_eq_some_iff.1 two
    simp only [List.getElem_cons_succ, List.getElem_cons_zero, hi] at tree_kept
    exact ⟨scene, items, hs, hi, hlen, tree_kept.1, bush_dropped⟩
  · obtain ⟨first, -⟩ := (compile_isolated strict [] [tree, bush, tree]).2.1 rfl
    have some : (strict.compileObject 0 tree {}).1.toOption.isSome = true := by decide +kernel
    obtain ⟨items, hi⟩ := Option.isSome_iff_exists.1 some
    refine ⟨_, rfl, first 1 (by decide) _ rfl fun j hj => ?_⟩
    obtain rfl := Nat.lt_one_iff.1 hj
    exact ⟨items, toOption_eq_some_iff.1 hi⟩

end SceneDraw.Scene
