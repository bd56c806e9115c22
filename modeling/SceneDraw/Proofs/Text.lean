import SceneDraw.Text.Split
import Mathlib.Data.List.DropRight
import Mathlib.Tactic.Lemma

namespace SceneDraw.Text

lemma ne_of_isBlank {c d : Char} (hc : isBlank c = true) (hd : isBlank d = false) : c ≠ d := by
  rintro rfl
  exact Bool.false_ne_true (hd.symm.trans hc)

lemma not_mem_of_allBlank {s : List Char} {c : Char} (hs : Text.allBlank s = true)
    (hc : Text.isBlank c = false) : c ∉ s :=
  fun h => Text.ne_of_isBlank (List.all_eq_true.1 hs c h) hc rfl

lemma trimEnd_eq_rdropWhile (s : List Char) : trimEnd s = s.rdropWhile isBlank := rfl

lemma trimEnd_concat {c : Char} (h : isBlank c = true) (s : List Char) :
    trimEnd (s ++ [c]) = trimEnd s := by
  simp only [trimEnd_eq_rdropWhile, List.rdropWhile_concat_pos _ _ _ h]

lemma trimEnd_concat_of_not {c : Char} (h : isBlank c = false) (s : List Char) :
    trimEnd (s ++ [c]) = s ++ [c] := by
  rw [trimEnd_eq_rdropWhile, List.rdropWhile_concat_neg _ _ _ (by simp [h])]

lemma trimEnd_append {s t : List Char} (h : trimEnd s = trimEnd t) (r : List Char) :
    trimEnd (r ++ s) = trimEnd (r ++ t) := by
  simp only [trimEnd, List.reverse_append, List.dropWhile_append, List.reverse_inj] at h ⊢
  rw [h]

lemma trimStart_concat {c : Char} (h : isBlank c = true) (s : List Char) :
    trimStart (s ++ [c]) = if trimStart s = [] then [] else trimStart s ++ [c] := by
  simp only [trimStart, List.dropWhile_append]
  split_ifs <;> simp_all

lemma trim_concat {c : Char} (h : isBlank c = true) (s : List Char) : trim (s ++ [c]) = trim s := by
  rw [trim, trimStart_concat h, trim]
  split_ifs with hs
  · rw [hs]
  · exact trimEnd_concat h _

lemma trim_blanks_append {gap : List Char} (h : ∀ c ∈ gap, isBlank c = true) (s : List Char) :
    trim (gap ++ s) = trim s := by
  rw [trim, trimStart, List.dropWhile_append_of_pos h, trim, trimStart]

lemma trim_append_blanks {gap : List Char} (h : ∀ c ∈ gap, isBlank c = true) (s : List Char) :
    trim (s ++ gap) = trim s := by
  induction gap using List.reverseRecOn with
  | nil => rw [List.append_nil]
  | append_singleton gap c ih =>
    rw [List.forall_mem_append, List.forall_mem_singleton] at h
    rw [← List.append_assoc, trim_concat h.2, ih h.1]

lemma trim_pad {before after : List Char} (hb : allBlank before = true) (ha : allBlank after = true)
    (s : List Char) : trim (before ++ s ++ after) = trim s := by
  rw [allBlank, List.all_eq_true] at hb ha
  rw [trim_append_blanks ha, trim_blanks_append hb]

lemma exists_eq_pad_trim (s : List Char) :
    ∃ before after, allBlank before = true ∧ allBlank after = true ∧
      s = before ++ trim s ++ after := by
  refine ⟨s.takeWhile isBlank, (trimStart s).rtakeWhile isBlank, List.all_takeWhile, ?_, ?_⟩
  · rw [allBlank, List.rtakeWhile, List.all_reverse, List.all_takeWhile]
  · rw [List.append_assoc, trim, trimEnd_eq_rdropWhile, List.rdropWhile_append_rtakeWhile, trimStart,
      List.takeWhile_append_dropWhile]

lemma trim_trim (s : List Char) : trim (trim s) = trim s := by
  obtain ⟨before, after, hb, ha, hs⟩ := exists_eq_pad_trim s
  rw [← trim_pad hb ha (trim s), ← hs]

lemma trim_eq_nil_iff {s : List Char} : trim s = [] ↔ allBlank s = true := by
  constructor
  · intro h
    obtain ⟨before, after, hb, ha, hs⟩ := exists_eq_pad_trim s
    rw [h, List.append_nil] at hs
    rw [hs, allBlank, List.all_append]
    exact Bool.and_eq_true_iff.2 ⟨hb, ha⟩
  · intro h
    have := trim_append_blanks (List.all_eq_true.1 h) []
    rwa [List.nil_append] at this

lemma eq_of_trimEnd_eq {α : Type} {f : List Char → α}
    (hf : ∀ s c, isBlank c = true → f (s ++ [c]) = f s) {s t : List Char}
    (h : trimEnd s = trimEnd t) : f s = f t := by
  have trimmed : ∀ s, f (trimEnd s) = f s := by
    intro s
    induction s using List.reverseRecOn with
    | nil => rfl
    | append_singleton s c ih =>
      rw [trimEnd_eq_rdropWhile, List.rdropWhile_concat]
      split_ifs with hc
      · rw [hf s c hc, ← ih, trimEnd_eq_rdropWhile]
      · rfl
  rw [← trimmed s, h, trimmed]

lemma splitWhere_eq_splitOnP (p : Char → Bool) (s : List Char) : splitWhere p s = s.splitOnP p := by
  induction s with
  | nil => rfl
  | cons c s ih => rw [splitWhere, ih, List.splitOnP_cons_eq_if_modifyHead]

lemma split_eq_splitOn (sep : Char) (s : List Char) : split sep s = s.splitOn sep :=
  splitWhere_eq_splitOnP _ s

lemma not_mem_of_mem_split {sep : Char} {s l : List Char} (h : l ∈ split sep s) : sep ∉ l := by
  induction s generalizing l with
  | nil => simp_all [split_eq_splitOn]
  | cons c s ih =>
    obtain ⟨first, pieces, hs⟩ := List.exists_cons_of_ne_nil (List.splitOn_ne_nil sep s)
    rw [split_eq_splitOn, hs] at ih
    rw [split_eq_splitOn, List.splitOn_cons_eq_if_modifyHead, hs] at h
    split_ifs at h with hc
    · exact (List.mem_cons.1 h).elim (fun h => h ▸ List.not_mem_nil) ih
    · rcases List.mem_cons.1 h with rfl | h
      · intro hm
        rcases List.mem_cons.1 hm with rfl | hm
        · exact hc (beq_self_eq_true _)
        · exact ih List.mem_cons_self hm
      · exact ih (List.mem_cons_of_mem _ h)

lemma split_append (sep : Char) (s t : List Char) :
    ∃ pieces last first rest, split sep s = pieces ++ [last] ∧ split sep t = first :: rest ∧
      split sep (s ++ t) = pieces ++ (last ++ first) :: rest := by
  simp only [split_eq_splitOn]
  induction s with
  | nil =>
    obtain ⟨first, rest, ht⟩ := List.exists_cons_of_ne_nil (List.splitOn_ne_nil sep t)
    exact ⟨[], [], first, rest, by simp, ht, ht⟩
  | cons d s ih =>
    obtain ⟨pieces, last, first, rest, hs, ht, hst⟩ := ih
    rw [List.cons_append, List.splitOn_cons_eq_if_modifyHead, List.splitOn_cons_eq_if_modifyHead, hs,
      hst]
    split_ifs
    · exact ⟨[] :: pieces, last, first, rest, rfl, ht, rfl⟩
    · cases pieces with
      | nil => exact ⟨[], d :: last, first, rest, rfl, ht, rfl⟩
      | cons piece pieces => exact ⟨(d :: piece) :: pieces, last, first, rest, rfl, ht, rfl⟩

lemma split_concat {sep c : Char} (h : c ≠ sep) (s : List Char) :
    ∃ pieces last, split sep s = pieces ++ [last] ∧
      split sep (s ++ [c]) = pieces ++ [last ++ [c]] := by
  obtain ⟨pieces, last, first, rest, hs, hc, hsc⟩ := split_append sep s [c]
  obtain ⟨rfl, rfl⟩ : [c] = first ∧ [] = rest := by
    simpa [split, splitWhere, h] using hc
  exact ⟨pieces, last, hs, hsc⟩

lemma cut_append_cons {sep : Char} {s : List Char} (h : sep ∉ s) (t : List Char) :
    cut sep (s ++ sep :: t) = some (s, t) := by
  induction s with
  | nil => simp [cut]
  | cons c s ih =>
    rw [List.mem_cons, not_or] at h
    rw [List.cons_append, cut, if_neg (Ne.symm h.1), ih h.2, Option.map_some]

lemma cut_of_not_mem {sep : Char} {s : List Char} (h : sep ∉ s) : cut sep s = none := by
  induction s with
  | nil => rfl
  | cons c s ih =>
    rw [List.mem_cons, not_or] at h
    rw [cut, if_neg (Ne.symm h.1), ih h.2, Option.map_none]

lemma cut_concat {sep c : Char} (h : c ≠ sep) (s : List Char) :
    cut sep (s ++ [c]) = (cut sep s).map fun d => (d.1, d.2 ++ [c]) := by
  induction s with
  | nil => simp [cut, h]
  | cons e s ih =>
    rw [List.cons_append, cut, cut, ih]
    split_ifs with he
    · rfl
    · cases cut sep s <;> rfl

lemma words_append_cons {c : Char} (h : isBlank c = true) (s t : List Char) :
    words (s ++ c :: t) = words s ++ words t := by
  simp only [words, splitWhere_eq_splitOnP, List.splitOnP_append_cons s t h, List.filter_append]

lemma words_blanks_append {gap : List Char} (h : ∀ c ∈ gap, isBlank c = true) (s : List Char) :
    words (gap ++ s) = words s := by
  induction gap with
  | nil => rfl
  | cons c gap ih =>
    rw [List.forall_mem_cons] at h
    exact (words_append_cons h.1 [] _).trans (ih h.2)

lemma words_append_blanks {gap : List Char} (h : ∀ c ∈ gap, isBlank c = true) (s : List Char) :
    words (s ++ gap) = words s := by
  cases gap with
  | nil => rw [List.append_nil]
  | cons c gap =>
    rw [List.forall_mem_cons] at h
    rw [words_append_cons h.1, ← gap.append_nil, words_blanks_append h.2]
    exact List.append_nil _

lemma words_append_gap {gap : List Char} (hne : gap ≠ []) (h : ∀ c ∈ gap, isBlank c = true)
    (s t : List Char) : words (s ++ (gap ++ t)) = words s ++ words t := by
  obtain ⟨c, gap, rfl⟩ := List.exists_cons_of_ne_nil hne
  rw [List.forall_mem_cons] at h
  rw [List.cons_append, words_append_cons h.1, words_blanks_append h.2]

def isWord (s : List Char) : Bool := !s.isEmpty && s.all (!isBlank ·)

lemma isWord_iff {s : List Char} : isWord s = true ↔ s ≠ [] ∧ ∀ c ∈ s, isBlank c = false := by
  simp [isWord]

lemma words_of_isWord {s : List Char} (h : isWord s = true) : words s = [s] := by
  rw [isWord_iff] at h
  rw [words, splitWhere_eq_splitOnP, List.splitOnP_eq_singleton h.2]
  simp [h.1]

lemma trimStart_append_of_isWord {s : List Char} (h : isWord s = true) (t : List Char) :
    trimStart (s ++ t) = s ++ t := by
  rw [isWord_iff] at h
  obtain ⟨c, s, rfl⟩ := List.exists_cons_of_ne_nil h.1
  rw [trimStart, List.cons_append, List.dropWhile_cons, h.2 c List.mem_cons_self]
  rfl

lemma trimEnd_append_of_isWord {t : List Char} (h : isWord t = true) (s : List Char) :
    trimEnd (s ++ t) = s ++ t := by
  rw [isWord_iff] at h
  obtain ⟨t, c, rfl⟩ := t.eq_nil_or_concat.resolve_left h.1
  rw [List.concat_eq_append] at h ⊢
  rw [← List.append_assoc, trimEnd_concat_of_not (h.2 c (by simp))]

lemma trim_of_isWord {s : List Char} (h : isWord s = true) : trim s = s := by
  have start := trimStart_append_of_isWord h []
  rw [List.append_nil] at start
  rw [trim, start]
  exact trimEnd_append_of_isWord h []

lemma trim_between {s t : List Char} (hs : isWord s = true) (ht : isWord t = true) (m : List Char) :
    trim (s ++ m ++ t) = s ++ m ++ t := by
  rw [trim, List.append_assoc, trimStart_append_of_isWord hs, ← List.append_assoc,
    trimEnd_append_of_isWord ht]

def dropReturn (l : List Char) : List Char := if l.getLast? = some '\r' then l.dropLast else l

lemma dropReturn_concat (l : List Char) (c : Char) :
    dropReturn (l ++ [c]) = if c = '\r' then l else l ++ [c] := by
  simp [dropReturn]

lemma dropReturn_cons (c : Char) {l : List Char} (h : l ≠ []) :
    dropReturn (c :: l) = c :: dropReturn l := by
  obtain ⟨l, d, rfl⟩ := l.eq_nil_or_concat.resolve_left h
  rw [List.concat_eq_append, ← List.cons_append, dropReturn_concat, dropReturn_concat]
  split_ifs <;> rfl

lemma trimEnd_dropReturn (l : List Char) : trimEnd (dropReturn l) = trimEnd l := by
  induction l using List.reverseRecOn with
  | nil => rfl
  | append_singleton l c _ =>
    rw [dropReturn_concat]
    split_ifs with hc
    · exact (trimEnd_concat (by rw [hc]; rfl) l).symm
    · rfl

lemma lines_append_newline {l : List Char} (h : '\n' ∉ l) (s : List Char) :
    lines (l ++ '\n' :: s) = dropReturn l :: lines s := by
  induction l with
  | nil => rfl
  | cons c l ih =>
    have hl : '\n' ∉ l := fun hl => h (List.mem_cons_of_mem _ hl)
    have hc : c ≠ '\n' := fun hc => h (hc ▸ List.mem_cons_self)
    have step (hr : c = '\r' → l ≠ []) :
        lines (c :: (l ++ '\n' :: s)) = (c :: dropReturn l) :: lines s := by
      rw [lines, ih hl]
      · exact hc
      · rintro t rfl ht
        cases l with
        | nil => exact hr rfl rfl
        | cons d l => exact hl (by rw [(List.cons.inj ht).1]; exact List.mem_cons_self)
    cases l with
    | nil =>
      by_cases hr : c = '\r'
      · rw [hr]; rfl
      · exact (step (fun h => absurd h hr)).trans (by simp [dropReturn, hr])
    | cons d l =>
      rw [List.cons_append, step (fun _ => List.cons_ne_nil d l),
        dropReturn_cons c (List.cons_ne_nil d l)]

lemma lines_of_not_mem {l : List Char} (h : '\n' ∉ l) : lines l = if l = [] then [] else [l] := by
  induction l with
  | nil => rfl
  | cons c l ih =>
    rw [List.mem_cons, not_or] at h
    rw [lines, ih h.2, if_neg (List.cons_ne_nil c l)]
    · split_ifs with hl
      · rw [hl]
      · rfl
    · exact Ne.symm h.1
    · rintro s _ rfl
      exact h.2 List.mem_cons_self

lemma trim_eq_of_trimEnd_eq {s t : List Char} (h : trimEnd s = trimEnd t) : trim s = trim t :=
  eq_of_trimEnd_eq (fun s _ hc => trim_concat hc s) h

lemma trimmedLines_eq (s : List Char) :
    trimmedLines s = ((split '\n' s).map trim).filter (!·.isEmpty) := by
  suffices ∀ ls : List (List Char), (∀ l ∈ ls, '\n' ∉ l) →
      trimmedLines (['\n'].intercalate ls) = (ls.map trim).filter (!·.isEmpty) by
    rw [← this _ fun _ => not_mem_of_mem_split, split_eq_splitOn, List.intercalate_splitOn]
  intro ls h
  induction ls with
  | nil => rfl
  | cons l ls ih =>
    rw [List.forall_mem_cons] at h
    cases ls with
    | nil =>
      rw [List.intercalate_singleton, trimmedLines, lines_of_not_mem h.1]
      split_ifs with hl
      · rw [hl]; rfl
      · rfl
    | cons m ls =>
      rw [List.intercalate_cons_cons, List.append_assoc, List.singleton_append, trimmedLines,
        lines_append_newline h.1, List.map_cons, List.map_cons,
        trim_eq_of_trimEnd_eq (trimEnd_dropReturn l), List.filter_cons, List.filter_cons,
        ← trimmedLines, ih h.2]

lemma isInfix_trim (s : List Char) : trim s <:+: s :=
  (List.rdropWhile_prefix isBlank (trimStart s)).isInfix.trans (List.dropWhile_suffix isBlank).isInfix

def Pieces (s : List Char) : List (List Char) → Prop
  | [] => True
  | l :: ls => l <+: s ∧ ∀ m ∈ ls, m <:+: s

namespace Pieces

lemma isInfix {s l : List Char} {ls : List (List Char)} (h : Pieces s ls) (hl : l ∈ ls) :
    l <:+: s := by
  cases ls with
  | nil => exact absurd hl List.not_mem_nil
  | cons m ls =>
    rcases List.mem_cons.1 hl with rfl | hl
    · exact h.1.isInfix
    · exact h.2 l hl

lemma turn {s : List Char} {ls : List (List Char)} (h : Pieces s ls) (c : Char) :
    Pieces (c :: s) ([] :: ls) :=
  ⟨List.nil_prefix, fun _ hm => List.infix_cons (h.isInfix hm)⟩

lemma grow {s l : List Char} {ls : List (List Char)} (h : Pieces s (l :: ls)) (c : Char) :
    Pieces (c :: s) ((c :: l) :: ls) :=
  ⟨List.cons_prefix_cons.2 ⟨rfl, h.1⟩, fun m hm => List.infix_cons (h.2 m hm)⟩

end Pieces

lemma pieces_splitWhere (p : Char → Bool) (s : List Char) : Pieces s (splitWhere p s) := by
  induction s with
  | nil => exact ⟨List.nil_prefix, nofun⟩
  | cons c s ih =>
    rw [splitWhere]
    split_ifs with hc
    · exact ih.turn c
    · cases hs : splitWhere p s with
      | nil => trivial
      | cons l ls => exact (hs ▸ ih).grow c

lemma pieces_lines (s : List Char) : Pieces s (lines s) := by
  fun_induction lines s with
  | case1 => trivial
  | case2 s ih => exact ih.turn '\n'
  | case3 s ih => exact ⟨List.nil_prefix, fun m hm => List.infix_cons ((ih.turn '\n').2 m hm)⟩
  | case4 c s h₁ h₂ hs ih => exact ⟨List.cons_prefix_cons.2 ⟨rfl, List.nil_prefix⟩, nofun⟩
  | case5 c s h₁ h₂ l ls hs ih => exact (hs ▸ ih).grow c

lemma eq_of_cut {sep : Char} {s a b : List Char} (h : cut sep s = some (a, b)) :
    s = a ++ sep :: b := by
  induction s generalizing a with
  | nil => cases h
  | cons c s ih =>
    rw [cut] at h
    split_ifs at h with hc
    · cases h; rw [hc]; rfl
    · obtain ⟨⟨a', b'⟩, hs, hab⟩ := Option.map_eq_some_iff.1 h
      cases hab
      rw [ih hs]; rfl

lemma eq_of_cutLast {sep : Char} {s a b : List Char} (h : cutLast sep s = some (a, b)) :
    s = a ++ sep :: b := by
  obtain ⟨⟨a', b'⟩, hs, hab⟩ := Option.map_eq_some_iff.1 h
  cases hab
  rw [← s.reverse_reverse, eq_of_cut hs]
  simp

end SceneDraw.Text
