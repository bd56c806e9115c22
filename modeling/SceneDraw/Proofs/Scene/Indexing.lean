import SceneDraw.Proofs.Source.Conditional
import SceneDraw.Proofs.Source.Declaration
import SceneDraw.Scene.Assets

namespace SceneDraw.Scene

open Source

namespace Assets

lemma addDeclarations_congr {s t : List Char} (h : declaredType? s = declaredType? t)
    (ds : List (List Char × List Char)) (a : Assets) (count : Nat) :
    addDeclarations s ds a count = addDeclarations t ds a count := by
  induction ds generalizing a count with
  | nil => rfl
  | cons d ds ih =>
    rw [addDeclarations, addDeclarations, h]
    simp only [ih]

theorem indexFile_stripComments {file : String}
    (h : CommentScan.code.AllApart (Text.split '\n' file.toList)) (a : Assets) :
    a.indexFile (.ofList (stripComments file.toList)) = a.indexFile file := by
  have same : declared (keepVersion (stripComments file.toList)) = declared (keepVersion file.toList) :=
    declared_congr (trimEnd_strip_keepVersion h)
  rw [indexFile, indexFile, String.toList_ofList, declarations_eq, declarations_eq, same]
  refine addDeclarations_congr (funext fun name => ?_) _ a 0
  rw [declaredType?_eq, declaredType?_eq, same]

theorem indexFile_stripComments_coin :
    let file := "#ifdef VERSION_JP // japan\nGfx a[] = \x7b\x7d;\n#endif /**/\nGfx b[] = \x7b/*\n*/ c,\x7d;"
    CommentScan.code.AllApart (Text.split '\n' file.toList) ∧
      indexFile {} (.ofList (stripComments file.toList)) = indexFile {} file ∧
      (indexFile {} file).2.toOption = some 1 := by
  intro file
  have h : CommentScan.code.AllApart (Text.split '\n' file.toList) := by decide +kernel
  exact ⟨h, indexFile_stripComments h {}, by decide +kernel⟩

theorem indexFile_commented :
    (let file := "#ifdef VERSION_US // north america\nGfx coin_dl[] = \x7ba,\x7d;\n#endif\n"
     (indexFile {} file).2.toOption = some 0 ∧
       (indexFile {} (.ofList (stripComments file.toList))).2.toOption = some 1) ∧
    (let file := "Vtx coin_vtx[] = \x7b0, 0, 0, 0, 0, 0, a\r// b\nc, 0, 0, 0\x7d;"
     (indexFile {} file).2 = .error (.notInteger (.symbol "a\r\nc")) ∧
       (indexFile {} (.ofList (stripComments file.toList))).2 =
         .error (.notInteger (.symbol "a\nc"))) := by
  decide +kernel

def addAs (type : Declaration → List Char) :
    List Declaration → Assets → Nat → Assets × Except ParseError Nat
  | [], a, count => (a, .ok count)
  | d :: ds, a, count =>
    match a.addDeclaration (.ofList (type d)) (.ofList d.name) d.body with
    | .error e => (a, .error e)
    | .ok none => addAs type ds a count
    | .ok (some a) => addAs type ds a (count + 1)

lemma addDeclarations_eq_addAs {s : List Char} {type : Declaration → List Char}
    {ds : List Declaration} (h : ∀ d ∈ ds, declaredType? s d.name = some (type d)) (a : Assets)
    (count : Nat) :
    addDeclarations s (ds.map fun d => (d.name, d.body)) a count = addAs type ds a count := by
  induction ds generalizing a count with
  | nil => rfl
  | cons d ds ih =>
    rw [List.forall_mem_cons] at h
    rw [List.map_cons, addDeclarations, addAs, h.1]
    dsimp only
    cases a.addDeclaration (.ofList (type d)) (.ofList d.name) d.body with
    | error e => rfl
    | ok added =>
      cases added with
      | none => exact ih h.2 a count
      | some b => exact ih h.2 b (count + 1)

/--
A name gets the body of its last declaration, and the type that stands before it there if the name
stands next to its dimension and is not declared with another type. With such declarations alone,
a file adds each of them as what it is declared to be.
-/
theorem indexFile_types (s : List Char) :
    declarations s = (stored s).map (fun d => (d.name, d.body)) ∧
    (∀ d ∈ stored s,
      (∃ before after, declared s = before ++ d :: after ∧ ∀ e ∈ after, e.name ≠ d.name) ∧
      ∀ type, d.Typed type → Uniform s d.name type → declaredType? s d.name = some type) ∧
    ∀ type : Declaration → List Char,
      (∀ d ∈ stored s, d.Typed (type d) ∧ Uniform s d.name (type d)) →
      ∀ (file : String) (a : Assets), keepVersion file.toList = s →
        a.indexFile file = addAs type (stored s) a 0 := by
  have last := (foldl_store (declared s)).2
  have typed : ∀ d ∈ stored s, ∀ type, d.Typed type → Uniform s d.name type →
      declaredType? s d.name = some type := by
    intro d hd type ht hsame
    obtain ⟨before, after, hs, -⟩ := last d hd
    exact declaredType?_eq_of_typed (hs ▸ List.mem_append_right _ List.mem_cons_self) ht hsame
  refine ⟨declarations_eq_map_stored s, fun d hd => ⟨last d hd, typed d hd⟩, ?_⟩
  rintro type h file a rfl
  rw [indexFile, declarations_eq_map_stored]
  exact addDeclarations_eq_addAs (fun d hd => typed d hd _ (h d hd).1 (h d hd).2) a 0

def twice : String :=
  "Gfx coin_dl[] = \x7ba,\x7d;\nstatic const\tGfx\n *coin_dl[COUNT] = \x7bb,\x7d;"

theorem indexFile_types_twice :
    declaredType? twice.toList "coin_dl".toList = some "Gfx".toList ∧
      (({} : Assets).indexFile twice).1.sources.displayLists.find? "coin_dl" = some ["b,"] := by
  let d : Declaration :=
    ⟨"coin_dl".toList, "\nstatic const\tGfx\n *coin_dl[COUNT] ".toList, "b,".toList⟩
  have only : stored twice.toList = [d] := by decide +kernel
  have typed : d.Typed "Gfx".toList :=
    ⟨"\nstatic const\t".toList, "\n ".toList, "*".toList, "[COUNT]".toList, " ".toList,
      by decide +kernel⟩
  have uniform : Uniform twice.toList d.name "Gfx".toList := by
    unfold Uniform
    decide +kernel
  obtain ⟨-, types, added⟩ := indexFile_types twice.toList
  refine ⟨(types d (only ▸ List.mem_cons_self)).2 _ typed uniform, ?_⟩
  have each : ∀ e ∈ stored twice.toList,
      e.Typed "Gfx".toList ∧ Uniform twice.toList e.name "Gfx".toList := by
    rw [only]
    exact List.forall_mem_singleton.2 ⟨typed, uniform⟩
  rw [added (fun _ => "Gfx".toList) each twice {} (by decide +kernel), only]
  decide +kernel

theorem types_of_other_words :
    (let s := "const Gfx coin_dl [] = \x7bgsSPEndDisplayList(),\x7d;".toList
     declarations s = [("coin_dl".toList, "gsSPEndDisplayList(),".toList)] ∧
       declaredType? s "coin_dl".toList = some "coin_dl".toList) ∧
    (let s := "Vtx coin[] = \x7b1\x7d; Gfx coin[] = \x7b2\x7d;".toList
     declarations s = [("coin".toList, "2".toList)] ∧
       declaredType? s "coin".toList = some "Vtx".toList) := by
  decide +kernel

end Assets

end SceneDraw.Scene
