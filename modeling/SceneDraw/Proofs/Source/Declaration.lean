import SceneDraw.Proofs.Source.Comment
import SceneDraw.Source.Declaration

namespace SceneDraw.Source

structure Declaration where
  name : List Char
  head : List Char
  body : List Char
  deriving DecidableEq

namespace Declaration

def read? (text : List Char) : Option Declaration :=
  (readDeclaration? text).map fun d => ⟨d.1, d.2.1, insideBraces d.2.2⟩

def readAll (s : List Char) : List Declaration := (Text.split ';' s).filterMap read?

lemma insideBraces_concat {c : Char} (h : Text.isBlank c = true) (s : List Char) :
    insideBraces (s ++ [c]) = insideBraces s := by
  rw [insideBraces, insideBraces, Text.trim_concat h]

lemma read?_eq (text : List Char) :
    read? text = (Text.cut '=' text).bind fun d =>
      (declaredName? d.1).map fun name => ⟨name, d.1, insideBraces d.2⟩ := by
  rw [read?, readDeclaration?]
  cases Text.cut '=' text with
  | none => rfl
  | some d =>
    simp only [Option.bind_eq_bind, Option.bind_some]
    cases declaredName? d.1 <;> rfl

lemma read?_eq_some_iff {text : List Char} {d : Declaration} :
    read? text = some d ↔ ∃ body, Text.cut '=' text = some (d.head, body) ∧
      declaredName? d.head = some d.name ∧ d.body = insideBraces body := by
  rw [read?_eq]
  simp only [Option.bind_eq_some_iff, Option.map_eq_some_iff, Prod.exists]
  constructor
  · rintro ⟨head, body, hcut, name, hname, rfl⟩
    exact ⟨body, hcut, hname, rfl⟩
  · rintro ⟨body, hcut, hname, hbody⟩
    exact ⟨d.head, body, hcut, d.name, hname, by rw [← hbody]⟩

lemma read?_concat {c : Char} (h : Text.isBlank c = true) (text : List Char) :
    read? (text ++ [c]) = read? text := by
  rw [read?_eq, read?_eq, Text.cut_concat (Text.ne_of_isBlank h rfl)]
  cases Text.cut '=' text with
  | none => rfl
  | some d => simp only [Option.map_some, Option.bind_some, insideBraces_concat h]

lemma readAll_concat (s : List Char) (c : Char) (h : Text.isBlank c = true) :
    readAll (s ++ [c]) = readAll s := by
  obtain ⟨pieces, last, hs, hc⟩ := Text.split_concat (Text.ne_of_isBlank (d := ';') h rfl) s
  rw [readAll, readAll, hs, hc, List.filterMap_append, List.filterMap_append, List.filterMap_cons,
    read?_concat h, List.filterMap_cons]

end Declaration

def declared (s : List Char) : List Declaration := Declaration.readAll (stripComments s)

lemma declared_congr {s t : List Char}
    (h : Text.trimEnd (stripComments s) = Text.trimEnd (stripComments t)) : declared s = declared t :=
  Text.eq_of_trimEnd_eq Declaration.readAll_concat h

lemma declarations_eq (s : List Char) :
    declarations s = (declared s).foldl (fun ds d => define d.name d.body ds) [] := by
  rw [declarations, declared, Declaration.readAll, List.foldl_filterMap, List.foldl_filterMap]
  congr 1
  funext ds text
  rw [Declaration.read?]
  cases readDeclaration? text <;> rfl

lemma declaredType?_eq (s name : List Char) :
    declaredType? s name =
      (declared s).findSome? fun d => if d.name = name then headType? d.head else none := by
  rw [declaredType?, declared, Declaration.readAll, ← List.head?_filterMap, ← List.head?_filterMap,
    List.filterMap_filterMap]
  congr 2
  funext text
  rw [Declaration.read?]
  cases readDeclaration? text <;> rfl

namespace Declaration

def store (d : Declaration) : List Declaration → List Declaration
  | [] => [d]
  | e :: ds => if e.name = d.name then d :: ds else e :: d.store ds

lemma define_map (d : Declaration) (ds : List Declaration) :
    define d.name d.body (ds.map fun d => (d.name, d.body)) =
      (d.store ds).map fun d => (d.name, d.body) := by
  induction ds with
  | nil => rfl
  | cons e ds ih =>
    rw [List.map_cons, define, store, ih]
    split_ifs <;> rfl

lemma mem_store {d e : Declaration} {ds : List Declaration}
    (h : ds.Pairwise fun a b => a.name ≠ b.name) (he : e ∈ d.store ds) :
    e = d ∨ e ∈ ds ∧ e.name ≠ d.name := by
  induction ds with
  | nil => exact .inl (List.mem_singleton.1 he)
  | cons a ds ih =>
    rw [List.pairwise_cons] at h
    rw [store] at he
    split_ifs at he with ha
    · exact (List.mem_cons.1 he).imp_right fun he =>
        ⟨List.mem_cons_of_mem a he, fun hn => h.1 e he (ha.trans hn.symm)⟩
    · rcases List.mem_cons.1 he with rfl | he
      · exact .inr ⟨List.mem_cons_self, ha⟩
      · exact (ih h.2 he).imp_right fun he => ⟨List.mem_cons_of_mem a he.1, he.2⟩

lemma pairwise_store {d : Declaration} {ds : List Declaration}
    (h : ds.Pairwise fun a b => a.name ≠ b.name) :
    (d.store ds).Pairwise fun a b => a.name ≠ b.name := by
  induction ds with
  | nil => exact List.pairwise_singleton _ d
  | cons a ds ih =>
    rw [List.pairwise_cons] at h
    rw [store]
    split_ifs with ha
    · exact List.pairwise_cons.2 ⟨fun b hb => ha ▸ h.1 b hb, h.2⟩
    · refine List.pairwise_cons.2 ⟨fun b hb => ?_, ih h.2⟩
      rcases mem_store h.2 hb with rfl | hb
      · exact ha
      · exact h.1 b hb.1

end Declaration

def stored (s : List Char) : List Declaration := (declared s).foldl (fun ds d => d.store ds) []

lemma declarations_eq_map_stored (s : List Char) :
    declarations s = (stored s).map fun d => (d.name, d.body) := by
  rw [declarations_eq, stored]
  suffices ∀ ds stored : List Declaration,
      ds.foldl (fun ds d => define d.name d.body ds) (stored.map fun d => (d.name, d.body)) =
        (ds.foldl (fun ds d => d.store ds) stored).map fun d => (d.name, d.body) from
    this (declared s) []
  intro ds
  induction ds with
  | nil => exact fun _ => rfl
  | cons d ds ih =>
    intro stored
    rw [List.foldl_cons, List.foldl_cons, d.define_map, ih]

lemma foldl_store (ds : List Declaration) :
    let stored := ds.foldl (fun ds d => d.store ds) []
    (stored.Pairwise fun a b => a.name ≠ b.name) ∧
      ∀ d ∈ stored, ∃ before after, ds = before ++ d :: after ∧ ∀ e ∈ after, e.name ≠ d.name := by
  induction ds using List.reverseRecOn with
  | nil => exact ⟨List.Pairwise.nil, nofun⟩
  | append_singleton ds d ih =>
    rw [List.foldl_concat]
    refine ⟨Declaration.pairwise_store ih.1, fun e he => ?_⟩
    rcases Declaration.mem_store ih.1 he with rfl | ⟨he, hn⟩
    · exact ⟨ds, [], rfl, nofun⟩
    · obtain ⟨before, after, rfl, hafter⟩ := ih.2 e he
      refine ⟨before, after ++ [d], by rw [List.append_assoc, List.cons_append], fun a ha => ?_⟩
      rcases List.mem_append.1 ha with ha | ha
      · exact hafter a ha
      · exact List.mem_singleton.1 ha ▸ hn.symm

lemma foldl_store_of_nodup {ds : List Declaration} (h : (ds.map (·.name)).Nodup) :
    ds.foldl (fun ds d => d.store ds) [] = ds := by
  have last (d : Declaration) (ds : List Declaration) (h : ∀ e ∈ ds, e.name ≠ d.name) :
      d.store ds = ds ++ [d] := by
    induction ds with
    | nil => rfl
    | cons e ds ih =>
      rw [List.forall_mem_cons] at h
      rw [Declaration.store, if_neg h.1, ih h.2, List.cons_append]
  induction ds using List.reverseRecOn with
  | nil => rfl
  | append_singleton ds d ih =>
    rw [List.map_append, List.nodup_append] at h
    rw [List.foldl_concat, ih h.1, last d ds]
    exact fun e he => h.2.2 _ (List.mem_map_of_mem he) _ List.mem_cons_self

lemma not_isBlank_of_isIdentifierChar {c : Char} (h : isIdentifierChar c = true) :
    Text.isBlank c = false := by
  have hc : (97 ≤ c.toNat ∧ c.toNat ≤ 122) ∨ (65 ≤ c.toNat ∧ c.toNat ≤ 90) ∨
      (48 ≤ c.toNat ∧ c.toNat ≤ 57) ∨ c.toNat = 95 := by
    simp only [isIdentifierChar, Bool.or_eq_true, Bool.and_eq_true, decide_eq_true_eq, beq_iff_eq,
      or_assoc] at h
    exact h.imp id (.imp id (.imp id fun h => congrArg Char.toNat h))
  simp only [Text.isBlank, Bool.or_eq_false_iff, Bool.and_eq_false_iff, decide_eq_false_iff_not,
    beq_eq_false_iff_ne]
  omega

lemma isIdentifierChar_of_mem {s : List Char} {c : Char} (h : isIdentifier s = true) (hc : c ∈ s) :
    isIdentifierChar c = true := by
  cases s with
  | nil => cases hc
  | cons d s =>
    rw [isIdentifier, Bool.and_eq_true, List.all_eq_true] at h
    exact h.2 c hc

lemma not_mem_of_isIdentifier {s : List Char} {c : Char} (h : isIdentifier s = true)
    (hc : isIdentifierChar c = false) : c ∉ s :=
  fun hm => Bool.false_ne_true (hc.symm.trans (isIdentifierChar_of_mem h hm))

lemma exists_of_isIdentifier {s : List Char} (h : isIdentifier s = true) :
    ∃ init last, s = init ++ [last] ∧ isIdentifierChar last = true := by
  rcases s.eq_nil_or_concat with rfl | ⟨init, last, rfl⟩
  · exact absurd h Bool.false_ne_true
  · rw [List.concat_eq_append] at h ⊢
    exact ⟨init, last, rfl, isIdentifierChar_of_mem h (by simp)⟩

lemma isWord_of_isIdentifier {s : List Char} (h : isIdentifier s = true) :
    Text.isWord s = true := by
  cases s with
  | nil => exact absurd h Bool.false_ne_true
  | cons c s =>
    rw [isIdentifier, Bool.and_eq_true, List.all_eq_true] at h
    exact Text.isWord_iff.2
      ⟨List.cons_ne_nil c s, fun a ha => not_isBlank_of_isIdentifierChar (h.2 a ha)⟩

namespace Declaration

lemma isWord_name {d : Declaration} {s : List Char} (h : d ∈ declared s) :
    Text.isWord d.name = true := by
  obtain ⟨text, -, hd⟩ := List.mem_filterMap.1 h
  obtain ⟨_, -, hname, -⟩ := read?_eq_some_iff.1 hd
  rw [declaredName?, Option.ite_none_right_eq_some] at hname
  exact Option.some.inj hname.2 ▸ isWord_of_isIdentifier hname.1

/--
The head reads `type *name[dimension]`, whatever stands before the type, with or without stars and
a dimension, and with no blank from the stars up to the end of the dimension.
-/
def Typed (d : Declaration) (type : List Char) : Prop :=
  ∃ before gap stars dimension after,
    d.head = before ++ type ++ gap ++ stars ++ d.name ++ dimension ++ after ∧
    before.getLast?.all Text.isBlank ∧ Text.isWord type ∧ gap ≠ [] ∧ Text.allBlank gap ∧
    stars.all (· == '*') ∧ dimension.all (!Text.isBlank ·) ∧ Text.allBlank after

lemma Typed.headType?_eq {d : Declaration} {type : List Char} (h : d.Typed type)
    (hd : Text.isWord d.name = true) : headType? d.head = some type := by
  obtain ⟨before, gap, stars, dimension, after, head, hbefore, htype, hne, hgap, hstars, hdim,
    hafter⟩ := h
  simp only [Text.allBlank, List.all_eq_true, beq_iff_eq, Bool.not_eq_true'] at hgap hstars hdim hafter
  have declarator : Text.isWord (stars ++ d.name ++ dimension) = true := by
    rw [Text.isWord_iff] at hd ⊢
    refine ⟨by simp [hd.1], fun c hc => ?_⟩
    rcases List.mem_append.1 hc with hc | hc
    · rcases List.mem_append.1 hc with hc | hc
      · exact hstars c hc ▸ rfl
      · exact hd.2 c hc
    · exact hdim c hc
  have front : Text.words (before ++ type) = Text.words before ++ [type] := by
    rcases before.eq_nil_or_concat with rfl | ⟨before, c, rfl⟩
    · exact Text.words_of_isWord htype
    · rw [List.concat_eq_append] at hbefore ⊢
      have hc : Text.isBlank c = true := by simpa using hbefore
      rw [List.append_assoc, List.singleton_append, Text.words_append_cons hc,
        Text.words_of_isWord htype, Text.words_append_blanks fun a ha => List.mem_singleton.1 ha ▸ hc]
  have words : Text.words d.head = Text.words before ++ [type, stars ++ d.name ++ dimension] := by
    rw [head, Text.words_append_blanks hafter, List.append_assoc, List.append_assoc,
      List.append_assoc, Text.words_append_gap hne hgap, front, ← List.append_assoc stars,
      Text.words_of_isWord declarator, List.append_assoc]
    rfl
  rw [headType?, words, List.reverse_append]
  rfl

end Declaration

def Uniform (s name type : List Char) : Prop :=
  ∀ d ∈ declared s, d.name = name → ∀ t ∈ headType? d.head, t = type

lemma declaredType?_eq_of_typed {s type : List Char} {d : Declaration} (h : d ∈ declared s)
    (ht : d.Typed type) (hsame : Uniform s d.name type) :
    declaredType? s d.name = some type := by
  have found := ht.headType?_eq (Declaration.isWord_name h)
  rw [declaredType?_eq]
  cases hf : (declared s).findSome? fun e => if e.name = d.name then headType? e.head else none with
  | none =>
    have := List.findSome?_eq_none_iff.1 hf d h
    rw [if_pos rfl, found] at this
    exact absurd this (Option.some_ne_none type)
  | some t =>
    obtain ⟨e, he, hte⟩ := List.exists_of_findSome?_eq_some hf
    split_ifs at hte with hn
    rw [hsame e he hn t hte]

end SceneDraw.Source
