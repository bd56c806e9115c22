import SceneDraw.Proofs.Source.Conditional

/-! Texts without directives. Of such a text all is kept but the carriage returns before line
feeds. -/

namespace SceneDraw.Source

open Text (trimEnd dropReturn)

def lineFeeds : List Char → List Char
  | [] => []
  | '\r' :: '\n' :: s => '\n' :: lineFeeds s
  | c :: s => c :: lineFeeds s

lemma lineFeeds_cons {c : Char} {s : List Char} (h : ∀ t, c = '\r' → s ≠ '\n' :: t) :
    lineFeeds (c :: s) = c :: lineFeeds s := by
  rw [lineFeeds]
  exact h

lemma lineFeeds_append {s t : List Char} (h : t.head? ≠ some '\n') :
    lineFeeds (s ++ t) = lineFeeds s ++ lineFeeds t := by
  fun_induction lineFeeds s with
  | case1 => rfl
  | case2 s ih => exact congrArg _ ih
  | case3 c s hc ih =>
    rw [List.cons_append, lineFeeds_cons, ih, List.cons_append]
    rintro u rfl hu
    cases s with
    | nil => exact h (by rw [show t = '\n' :: u from hu]; rfl)
    | cons d s => exact hc s rfl (by rw [(List.cons.inj hu).1])

lemma lineFeeds_append_of_not_mem {s : List Char} (h : '\r' ∉ s) (t : List Char) :
    lineFeeds (s ++ t) = s ++ lineFeeds t := by
  induction s with
  | nil => rfl
  | cons c s ih =>
    rw [List.mem_cons, not_or] at h
    rw [List.cons_append, lineFeeds_cons fun _ hc => absurd hc.symm h.1, ih h.2, List.cons_append]

lemma lineFeeds_of_not_mem {s : List Char} (h : '\n' ∉ s) : lineFeeds s = s := by
  fun_induction lineFeeds s with
  | case1 => rfl
  | case2 s => exact absurd h (by simp)
  | case3 c s _ ih => rw [ih fun hs => h (List.mem_cons_of_mem c hs)]

lemma lineFeeds_sublist (s : List Char) : (lineFeeds s).Sublist s := by
  fun_induction lineFeeds s with
  | case1 => exact List.Sublist.refl _
  | case2 s ih => exact (ih.cons_cons '\n').cons '\r'
  | case3 c s _ ih => exact ih.cons_cons c

lemma allBlank_lineFeeds {s : List Char} (h : Text.allBlank s = true) :
    Text.allBlank (lineFeeds s) = true := by
  rw [Text.allBlank, List.all_eq_true] at *
  exact fun c hc => h c ((lineFeeds_sublist s).mem hc)

lemma lineFeeds_append_newline {l : List Char} (h : '\n' ∉ l) (s : List Char) :
    lineFeeds (l ++ '\n' :: s) = dropReturn l ++ '\n' :: lineFeeds s := by
  have feed : lineFeeds ('\n' :: s) = '\n' :: lineFeeds s :=
    lineFeeds_append_of_not_mem (s := ['\n']) (by decide) s
  rcases l.eq_nil_or_concat with rfl | ⟨l, c, rfl⟩
  · exact feed
  · rw [List.concat_eq_append, List.mem_append, not_or, List.mem_singleton] at h
    rw [List.concat_eq_append, List.append_assoc, List.singleton_append,
      lineFeeds_append (by simpa using Ne.symm h.2), lineFeeds_of_not_mem h.1,
      Text.dropReturn_concat]
    split_ifs with hc
    · rw [hc, lineFeeds]
    · rw [lineFeeds_cons fun _ he => absurd he hc, feed, List.append_assoc, List.singleton_append]

lemma trimEnd_lineFeeds (s : List Char) :
    trimEnd (unlines ((Text.split '\n' s).map dropReturn)) = trimEnd (lineFeeds s) := by
  suffices ∀ ls : List (List Char), (∀ l ∈ ls, '\n' ∉ l) →
      trimEnd (unlines (ls.map dropReturn)) = trimEnd (lineFeeds (['\n'].intercalate ls)) by
    rw [this _ fun _ => Text.not_mem_of_mem_split, Text.split_eq_splitOn, List.intercalate_splitOn]
  intro ls h
  induction ls with
  | nil => rfl
  | cons l ls ih =>
    rw [List.forall_mem_cons] at h
    cases ls with
    | nil =>
      rw [List.map_singleton, unlines_singleton, Text.trimEnd_concat rfl, Text.trimEnd_dropReturn,
        List.intercalate_singleton, lineFeeds_of_not_mem h.1]
    | cons m ls =>
      rw [List.intercalate_cons_cons, List.append_assoc, List.singleton_append,
        lineFeeds_append_newline h.1, List.map_cons, ← List.singleton_append, unlines_append,
        unlines_singleton, List.append_assoc, List.singleton_append]
      have := Text.trimEnd_append (ih h.2) (dropReturn l ++ ['\n'])
      rwa [List.append_assoc, List.append_assoc] at this

lemma split_lineFeeds (s : List Char) :
    (Text.split '\n' (lineFeeds s)).map trimEnd = (Text.split '\n' s).map trimEnd := by
  simp only [Text.split_eq_splitOn]
  fun_induction lineFeeds s with
  | case1 => rfl
  | case2 s ih =>
    simpa [List.splitOn_cons_eq_if_modifyHead] using ⟨rfl, ih⟩
  | case3 c s _ ih =>
    obtain ⟨l, ls, hs⟩ := List.exists_cons_of_ne_nil (List.splitOn_ne_nil '\n' s)
    obtain ⟨k, ks, hk⟩ := List.exists_cons_of_ne_nil (List.splitOn_ne_nil '\n' (lineFeeds s))
    rw [List.splitOn_cons_eq_if_modifyHead, List.splitOn_cons_eq_if_modifyHead]
    split_ifs
    · rw [List.map_cons, List.map_cons, ih]
    · rw [hs, hk, List.map_cons, List.map_cons, List.cons.injEq] at ih
      have first : trimEnd (c :: k) = trimEnd (c :: l) := Text.trimEnd_append ih.1 [c]
      rw [hs, hk, List.modifyHead_cons, List.modifyHead_cons, List.map_cons, List.map_cons, ih.2,
        first]

lemma trimmedLines_lineFeeds (s : List Char) :
    Text.trimmedLines (lineFeeds s) = Text.trimmedLines s := by
  have trims (ls : List (List Char)) : ls.map Text.trim = (ls.map trimEnd).map Text.trim := by
    rw [List.map_map]
    exact List.map_congr_left fun l _ =>
      Text.trim_eq_of_trimEnd_eq (List.rdropWhile_idempotent Text.isBlank l).symm
  rw [Text.trimmedLines_eq, Text.trimmedLines_eq, trims, split_lineFeeds, ← trims]

lemma exists_of_lineFeeds_eq_cons {s t : List Char} {d : Char} (h : lineFeeds s = d :: t)
    (hd : d ≠ '\n') : ∃ u, s = d :: u := by
  cases s with
  | nil => cases h
  | cons c s =>
    by_cases hc : ∃ t, c = '\r' ∧ s = '\n' :: t
    · obtain ⟨t, rfl, rfl⟩ := hc
      exact absurd (List.cons.inj h).1.symm hd
    · rw [lineFeeds_cons fun t h₁ h₂ => hc ⟨t, h₁, h₂⟩] at h
      exact ⟨s, by rw [(List.cons.inj h).1]⟩

lemma uncommented_lineFeeds {s : List Char} (h : Uncommented s) : Uncommented (lineFeeds s) := by
  have apart {s : List Char} {d : Char} (hd : d ≠ '\n') (hs : ∀ t, s ≠ d :: t) (t : List Char) :
      lineFeeds s ≠ d :: t := by
    intro ht
    obtain ⟨u, hu⟩ := exists_of_lineFeeds_eq_cons ht hd
    exact hs u hu
  fun_induction lineFeeds s with
  | case1 => exact .nil
  | case2 s ih =>
    have hs := (Uncommented.cons_iff.1 (Uncommented.cons_iff.1 h).2.2).2.2
    exact Uncommented.cons_iff.2
      ⟨fun _ h => absurd h (by decide), fun _ h => absurd h (by decide), ih hs⟩
  | case3 c s _ ih =>
    obtain ⟨h₁, h₂, hs⟩ := Uncommented.cons_iff.1 h
    exact Uncommented.cons_iff.2 ⟨fun t hc => apart (by decide) (h₁ · hc) t,
      fun t hc => apart (by decide) (h₂ · hc) t, ih hs⟩

def Undirected (s : List Char) : Prop :=
  ∀ l ∈ Text.split '\n' s, (Text.trimStart l).head? ≠ some '#'

instance (s : List Char) : Decidable (Undirected s) :=
  inferInstanceAs (Decidable (∀ l ∈ Text.split '\n' s, (Text.trimStart l).head? ≠ some '#'))

namespace Undirected

lemma of_not_mem {s : List Char} (h : '#' ∉ s) : Undirected s := by
  intro l hl hm
  have inside := (Text.pieces_splitWhere _ s).isInfix hl
  have hash := (List.dropWhile_suffix Text.isBlank).mem (List.mem_of_head? hm)
  exact h (inside.mem hash)

lemma append {s t : List Char} (hs : Undirected s) (ht : Undirected t) : Undirected (s ++ t) := by
  obtain ⟨pieces, last, first, rest, hps, hpt, hst⟩ := Text.split_append '\n' s t
  rw [Undirected, hps] at hs
  rw [Undirected, hpt] at ht
  rw [Undirected, hst]
  rw [List.forall_mem_append, List.forall_mem_singleton] at hs
  rw [List.forall_mem_cons] at ht
  refine List.forall_mem_append.2 ⟨hs.1, List.forall_mem_cons.2 ⟨?_, ht.2⟩⟩
  rw [Text.trimStart, List.dropWhile_append]
  split_ifs with blank
  · exact ht.1
  · rw [List.head?_append_of_ne_nil _ (by simpa using blank)]
    exact hs.2

end Undirected

lemma ofLine?_of_undirected {l : List Char} (h : (Text.trimStart l).head? ≠ some '#') :
    Directive.ofLine? l = none := by
  rw [Directive.ofLine?]
  cases hs : Text.trimStart l with
  | nil => rfl
  | cons c s =>
    have hc : '#' ≠ c := fun hc => h (by rw [hs, hc]; rfl)
    simp [Text.afterPrefix?, List.isPrefixOf?, hc]

lemma trimEnd_keepVersion_of_undirected {s : List Char} (h : Undirected s) :
    trimEnd (keepVersion s) = trimEnd (lineFeeds s) := by
  have kept (ls : List (List Char)) (hls : ∀ l ∈ ls, Directive.ofLine? l = none) :
      selectFrom [] true ls = ls := by
    induction ls with
    | nil => rfl
    | cons l ls ih =>
      rw [List.forall_mem_cons] at hls
      rw [selectFrom_cons, hls.1]
      exact congrArg _ (ih hls.2)
  rw [trimEnd_keepVersion, kept, trimEnd_lineFeeds]
  rw [List.forall_mem_map]
  intro l hl
  rw [Directive.ofLine?_dropReturn, ofLine?_of_undirected (h l hl)]

end SceneDraw.Source
