import Mathlib.Data.List.Infix
import SceneDraw.Proofs.Text
import SceneDraw.Source.Comment

/-! Removal of comments piece by piece: a scan goes on from where the text before left it, and no
comment marker lies across a line feed. -/

namespace SceneDraw.Source

structure Uncommented (s : List Char) : Prop where
  line : ¬ ['/', '/'] <:+: s
  block : ¬ ['/', '*'] <:+: s

instance (s : List Char) : Decidable (Uncommented s) :=
  decidable_of_iff (_ ∧ _) ⟨fun h => ⟨h.1, h.2⟩, fun h => ⟨h.1, h.2⟩⟩

lemma pair_infix_cons_iff {a b c : Char} {s : List Char} :
    [a, b] <:+: c :: s ↔ (c = a ∧ ∃ t, s = b :: t) ∨ [a, b] <:+: s := by
  rw [List.infix_cons_iff, List.cons_prefix_cons, eq_comm]
  simp only [List.IsPrefix, List.singleton_append, eq_comm]

namespace Uncommented

lemma nil : Uncommented [] := by decide

lemma cons_iff {c : Char} {s : List Char} :
    Uncommented (c :: s) ↔
      (∀ t, c = '/' → s ≠ '/' :: t) ∧ (∀ t, c = '/' → s ≠ '*' :: t) ∧ Uncommented s := by
  have apart (d : Char) : ¬ ['/', d] <:+: c :: s ↔
      (∀ t, c = '/' → s ≠ d :: t) ∧ ¬ ['/', d] <:+: s := by
    rw [pair_infix_cons_iff]
    simp only [not_or, not_and, not_exists]
    exact and_congr_left' ⟨fun h t hc => h hc t, fun h hc t => h t hc⟩
  constructor
  · rintro ⟨hl, hb⟩
    rw [apart] at hl hb
    exact ⟨hl.1, hb.1, hl.2, hb.2⟩
  · rintro ⟨hl, hb, hs⟩
    exact ⟨(apart '/').2 ⟨hl, hs.line⟩, (apart '*').2 ⟨hb, hs.block⟩⟩

lemma of_not_mem {s : List Char} (h : '/' ∉ s) : Uncommented s := by
  induction s with
  | nil => exact nil
  | cons c s ih =>
    rw [List.mem_cons, not_or] at h
    exact cons_iff.2 ⟨fun _ hc => absurd hc.symm h.1, fun _ hc => absurd hc.symm h.1, ih h.2⟩

lemma append_cons_iff {c : Char} (hs : c ≠ '/') (ha : c ≠ '*') {l s : List Char} :
    Uncommented (l ++ c :: s) ↔ Uncommented l ∧ Uncommented s := by
  induction l with
  | nil => simp [cons_iff, hs, nil]
  | cons d l ih =>
    rw [List.cons_append, cons_iff, cons_iff, ih]
    cases l <;> simp [hs, ha, and_assoc]

lemma part {s t : List Char} (h : Uncommented s) (ht : t <:+: s) : Uncommented t :=
  ⟨fun hm => h.line (hm.trans ht), fun hm => h.block (hm.trans ht)⟩

end Uncommented

namespace CommentScan

attribute [simp] strip

@[simp]
def after : CommentScan → List Char → CommentScan
  | st, [] => st
  | code, '/' :: '/' :: s => lineComment.after s
  | code, '/' :: '*' :: s => blockComment.after s
  | code, _ :: s => code.after s
  | lineComment, c :: s => if c = '\n' then code.after s else lineComment.after s
  | blockComment, '*' :: '/' :: s => code.after s
  | blockComment, _ :: s => blockComment.after s

@[simp]
def newline : CommentScan → CommentScan
  | blockComment => blockComment
  | _ => code

lemma strip_newline (st : CommentScan) (s : List Char) :
    st.strip ('\n' :: s) = '\n' :: st.newline.strip s := by
  cases st <;> simp

lemma strip_code_cons {c : Char} {s : List Char} (h₁ : ∀ t, c = '/' → s ≠ '/' :: t)
    (h₂ : ∀ t, c = '/' → s ≠ '*' :: t) : code.strip (c :: s) = c :: code.strip s := by
  rw [strip]
  exacts [h₁, h₂]

lemma strip_block_cons {c : Char} {s : List Char} (h : ∀ t, c = '*' → s ≠ '/' :: t) :
    blockComment.strip (c :: s) = (if c = '\n' then ['\n'] else []) ++ blockComment.strip s := by
  rw [strip]
  · split_ifs <;> rfl
  · exact h

lemma after_code_cons {c : Char} {s : List Char} (h₁ : ∀ t, c = '/' → s ≠ '/' :: t)
    (h₂ : ∀ t, c = '/' → s ≠ '*' :: t) : code.after (c :: s) = code.after s := by
  rw [after]
  exacts [h₁, h₂]

lemma after_block_cons {c : Char} {s : List Char} (h : ∀ t, c = '*' → s ≠ '/' :: t) :
    blockComment.after (c :: s) = blockComment.after s := by
  rw [after]
  exact h

lemma append_ne_cons {c d : Char} {l : List Char} (s : List Char) (hd : d ≠ c)
    (h : ∀ t, l ≠ c :: t) (t : List Char) : l ++ d :: s ≠ c :: t := by
  intro ht
  cases l with
  | nil => exact hd (List.cons.inj ht).1
  | cons e l => exact h l (by rw [(List.cons.inj ht).1])

section Boundary

-- A character that no comment marker holds: no marker lies across it.
variable {c : Char} (hs : c ≠ '/') (ha : c ≠ '*')

include hs ha

lemma strip_append_cons (st : CommentScan) (l s : List Char) :
    st.strip (l ++ c :: s) = st.strip l ++ (st.after l).strip (c :: s) := by
  fun_induction after st l with
  | case1 st => cases st <;> rfl
  | case2 l ih | case3 l ih | case5 l ih | case7 l ih => simpa using ih
  | case4 d l h₁ h₂ ih =>
    rw [List.cons_append, strip_code_cons (fun t hd => append_ne_cons s hs (h₁ · hd) t)
      (fun t hd => append_ne_cons s ha (h₂ · hd) t), ih, strip_code_cons h₁ h₂, List.cons_append]
  | case6 d l hd ih => simpa [hd] using ih
  | case8 d l h ih =>
    rw [List.cons_append, strip_block_cons fun t hd => append_ne_cons s hs (h · hd) t, ih,
      strip_block_cons h, List.append_assoc]

lemma after_append_cons (st : CommentScan) (l s : List Char) :
    st.after (l ++ c :: s) = (st.after l).after (c :: s) := by
  fun_induction after st l with
  | case1 st => rfl
  | case2 l ih | case3 l ih | case5 l ih | case7 l ih => simpa using ih
  | case4 d l h₁ h₂ ih =>
    rw [List.cons_append, after_code_cons (fun t hd => append_ne_cons s hs (h₁ · hd) t)
      (fun t hd => append_ne_cons s ha (h₂ · hd) t), ih]
  | case6 d l hd ih => simpa [hd] using ih
  | case8 d l h ih =>
    rw [List.cons_append, after_block_cons fun t hd => append_ne_cons s hs (h · hd) t, ih]

end Boundary

lemma strip_append_newline (st : CommentScan) (l s : List Char) :
    st.strip (l ++ '\n' :: s) = st.strip l ++ '\n' :: (st.after l).newline.strip s := by
  rw [strip_append_cons (by decide) (by decide), strip_newline]

lemma strip_sublist (st : CommentScan) (s : List Char) : (st.strip s).Sublist s := by
  fun_induction strip st s with
  | case1 => exact List.Sublist.refl _
  | case2 s ih | case3 s ih | case7 s ih => exact (ih.cons _).cons _
  | case4 c s _ _ ih => exact ih.cons_cons c
  | case5 s ih | case8 s _ ih => exact ih.cons_cons _
  | case6 c s _ ih | case9 c s _ _ ih => exact ih.cons c

lemma count_strip (st : CommentScan) (s : List Char) :
    (st.strip s).count '\n' = s.count '\n' := by
  fun_induction strip st s with
  | case1 => rfl
  | case2 s ih | case3 s ih | case7 s ih => simpa using ih
  | case4 c s _ _ ih => rw [List.count_cons, List.count_cons, ih]
  | case5 s ih | case8 s _ ih => rw [List.count_cons_self, List.count_cons_self, ih]
  | case6 c s hc ih | case9 c s _ hc ih => rw [List.count_cons_of_ne hc, ih]

lemma head?_code_strip {s : List Char} (h : s.head? ≠ some '/') :
    (code.strip s).head? = s.head? := by
  cases s with
  | nil => rfl
  | cons c s =>
    have hc : c ≠ '/' := fun hc => h (by rw [hc]; rfl)
    rw [strip_code_cons (fun _ he => absurd he hc) (fun _ he => absurd he hc), List.head?_cons,
      List.head?_cons]

lemma trimEnd_strip (st : CommentScan) {s t : List Char} (h : Text.trimEnd s = Text.trimEnd t) :
    Text.trimEnd (st.strip s) = Text.trimEnd (st.strip t) := by
  refine Text.eq_of_trimEnd_eq (f := fun s => Text.trimEnd (st.strip s)) (fun s c hc => ?_) h
  rw [strip_append_cons (Text.ne_of_isBlank hc rfl) (Text.ne_of_isBlank hc rfl)]
  rcases List.sublist_singleton.1 (strip_sublist (st.after s) [c]) with hb | hb
  · rw [hb, List.append_nil]
  · rw [hb, Text.trimEnd_concat hc]

lemma strip_of_uncommented {s : List Char} (h : Uncommented s) : code.strip s = s := by
  induction s with
  | nil => rfl
  | cons c s ih =>
    obtain ⟨h₁, h₂, hs⟩ := Uncommented.cons_iff.1 h
    rw [strip_code_cons h₁ h₂, ih hs]

lemma uncommented_strip (st : CommentScan) (s : List Char) : Uncommented (st.strip s) := by
  fun_induction strip st s with
  | case1 => exact .nil
  | case4 c s h₁ h₂ ih =>
    -- A slash in code stays before the character that followed it, so no marker comes about.
    have kept (d : Char) (h : ∀ t, c = '/' → s ≠ d :: t) (t : List Char) (hc : c = '/') :
        code.strip s ≠ d :: t := by
      intro hd
      have hs : s.head? ≠ some '/' := fun hs => (List.head?_eq_some_iff.1 hs).elim (h₁ · hc)
      have := head?_code_strip hs
      rw [hd, List.head?_cons] at this
      exact (List.head?_eq_some_iff.1 this.symm).elim (h · hc)
    exact Uncommented.cons_iff.2 ⟨kept '/' h₁, kept '*' h₂, ih⟩
  | case5 s ih | case8 s _ ih =>
    exact Uncommented.cons_iff.2 ⟨fun _ h => absurd h (by decide), fun _ h => absurd h (by decide), ih⟩
  | _ => assumption

lemma code_strip_strip (st : CommentScan) (s : List Char) :
    code.strip (st.strip s) = st.strip s :=
  strip_of_uncommented (uncommented_strip st s)

def stripLines : CommentScan → List (List Char) → List (List Char)
  | _, [] => []
  | st, l :: ls => st.strip l :: (st.after l).newline.stripLines ls

lemma strip_intercalate (st : CommentScan) (ls : List (List Char)) :
    st.strip (['\n'].intercalate ls) = ['\n'].intercalate (st.stripLines ls) := by
  induction ls generalizing st with
  | nil => cases st <;> rfl
  | cons l ls ih =>
    cases ls with
    | nil => simp only [stripLines, List.intercalate_singleton]
    | cons m ls =>
      simp only [List.intercalate_cons_cons, List.append_assoc, List.singleton_append,
        strip_append_newline, ih, stripLines]

lemma forall_mem_stripLines {p : List Char → Prop} {ls : List (List Char)}
    (hp : ∀ l ∈ ls, ∀ st : CommentScan, p (st.strip l)) (st : CommentScan) :
    ∀ l ∈ st.stripLines ls, p l := by
  induction ls generalizing st with
  | nil => exact fun _ h => absurd h List.not_mem_nil
  | cons l ls ih =>
    rw [List.forall_mem_cons] at hp
    exact List.forall_mem_cons.2 ⟨hp.1 st, ih hp.2 _⟩

lemma split_strip (st : CommentScan) (s : List Char) :
    Text.split '\n' (st.strip s) = st.stripLines (Text.split '\n' s) := by
  simp only [Text.split_eq_splitOn]
  have apart : ∀ l ∈ st.stripLines (s.splitOn '\n'), '\n' ∉ l := forall_mem_stripLines
    (fun l hl st h => Text.not_mem_of_mem_split (Text.split_eq_splitOn _ s ▸ hl)
      ((strip_sublist st l).subset h)) st
  have hne : st.stripLines (s.splitOn '\n') ≠ [] := by
    obtain ⟨l, ls, hs⟩ := List.exists_cons_of_ne_nil (List.splitOn_ne_nil '\n' s)
    exact hs ▸ List.cons_ne_nil _ _
  rw [← List.splitOn_intercalate '\n' apart hne, ← strip_intercalate, List.intercalate_splitOn]

lemma after_dropReturn (st : CommentScan) (l : List Char) :
    st.after (Text.dropReturn l) = st.after l := by
  induction l using List.reverseRecOn with
  | nil => rfl
  | append_singleton l c _ =>
    rw [Text.dropReturn_concat]
    split_ifs with hc
    · rw [hc, after_append_cons (by decide) (by decide)]
      cases st.after l <;> rfl
    · rfl

end CommentScan

end SceneDraw.Source
