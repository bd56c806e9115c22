import SceneDraw.Call.Parser
import SceneDraw.Proofs.Source.Declaration

/-! The removal of comments from a line, which searches it for the markers and comes to the same as the
removal from a file, and what a file without comments is to the readers that remove them again. -/

namespace SceneDraw.Source

def firstAt (marker s : List Char) : Option Nat := s.tails.findIdx? (marker.isPrefixOf ·)

lemma firstAt_cons_self (a b : Char) (s : List Char) : firstAt [a, b] (a :: b :: s) = some 0 := by
  simp [firstAt, List.findIdx?_cons]

lemma firstAt_cons {a b c : Char} {s : List Char} (h : ∀ t, c = a → s ≠ b :: t) :
    firstAt [a, b] (c :: s) = (firstAt [a, b] s).map (· + 1) := by
  have apart : [a, b].isPrefixOf (c :: s) = false := by
    rw [Bool.eq_false_iff, ne_eq, List.isPrefixOf_iff_prefix, List.cons_prefix_cons]
    rintro ⟨rfl, t, rfl⟩
    exact h t rfl rfl
  rw [firstAt, List.tails, List.findIdx?_cons, apart, if_neg Bool.false_ne_true, firstAt]

/--
Cuts a line at the first marker in it: the text before the marker, and the text that goes on after
the comment. A line comment takes all of the rest, and so does a block comment without an end.
-/
def cutComment (s : List Char) : List Char × List Char :=
  match firstAt ['/', '*'] s, firstAt ['/', '/'] s with
  | none, none => (s, [])
  | none, some line => (s.take line, [])
  | some block, line? =>
    if line?.all (block < ·) then
      let inside := s.drop (block + 2)
      (s.take block, ((firstAt ['*', '/'] inside).map fun close => inside.drop (close + 2)).getD [])
    else (s.take (line?.getD 0), [])

lemma cutComment_cons {c : Char} {s : List Char} (h₁ : ∀ t, c = '/' → s ≠ '/' :: t)
    (h₂ : ∀ t, c = '/' → s ≠ '*' :: t) :
    cutComment (c :: s) = (c :: (cutComment s).1, (cutComment s).2) := by
  rw [cutComment, firstAt_cons h₁, firstAt_cons h₂, cutComment]
  cases firstAt ['/', '*'] s with
  | none => cases firstAt ['/', '/'] s <;> rfl
  | some block =>
    cases firstAt ['/', '/'] s with
    | none => rfl
    | some line =>
      simp only [Option.map_some, Option.all_some, Nat.add_lt_add_iff_right, decide_eq_true_eq]
      split_ifs <;> rfl

lemma afterBlock_eq (s : List Char) :
    afterBlock s = ((firstAt ['*', '/'] s).map fun close => s.drop (close + 2)).getD [] := by
  fun_induction afterBlock s with
  | case1 => rfl
  | case2 s => rw [firstAt_cons_self]; rfl
  | case3 c s h ih =>
    rw [firstAt_cons h, ih]
    cases firstAt ['*', '/'] s <;> rfl

lemma cutComment_line (s : List Char) : cutComment ('/' :: '/' :: s) = ([], []) := by
  rw [cutComment, firstAt_cons_self, firstAt_cons fun t _ => by simp]
  cases firstAt ['/', '*'] ('/' :: s) <;> rfl

lemma cutComment_block (s : List Char) : cutComment ('/' :: '*' :: s) = ([], afterBlock s) := by
  rw [cutComment, firstAt_cons_self, firstAt_cons fun t _ => by simp, afterBlock_eq]
  cases firstAt ['/', '/'] ('*' :: s) <;> rfl

lemma stripLineComments_eq_cut (s : List Char) :
    stripLineComments s = (cutComment s).1 ++ stripLineComments (cutComment s).2 := by
  fun_induction stripLineComments s with
  | case1 => exact (stripLineComments.eq_1).symm
  | case2 s => rw [cutComment_line, stripLineComments]; rfl
  | case3 s _ ih => rw [cutComment_block]; rfl
  | case4 c s h₁ h₂ ih => rw [cutComment_cons h₁ h₂, List.cons_append, ← ih]

lemma stripLineComments_cons {c : Char} {s : List Char} (h₁ : ∀ t, c = '/' → s ≠ '/' :: t)
    (h₂ : ∀ t, c = '/' → s ≠ '*' :: t) : stripLineComments (c :: s) = c :: stripLineComments s := by
  rw [stripLineComments]
  exacts [h₁, h₂]

lemma stripLineComments_of_uncommented {s : List Char} (h : Uncommented s) :
    stripLineComments s = s := by
  induction s with
  | nil => exact stripLineComments.eq_1
  | cons c s ih =>
    obtain ⟨h₁, h₂, hs⟩ := Uncommented.cons_iff.1 h
    rw [stripLineComments_cons h₁ h₂, ih hs]

lemma stripLineComments_append_cons {c : Char} (hs : c ≠ '/') (ha : c ≠ '*') {l : List Char}
    (h : Uncommented l) (s : List Char) :
    stripLineComments (l ++ c :: s) = l ++ c :: stripLineComments s := by
  induction l with
  | nil => exact stripLineComments_cons (fun _ h => absurd h hs) fun _ h => absurd h hs
  | cons d l ih =>
    obtain ⟨h₁, h₂, hl⟩ := Uncommented.cons_iff.1 h
    rw [List.cons_append, stripLineComments_cons
      (fun t hd => CommentScan.append_ne_cons s hs (h₁ · hd) t)
      (fun t hd => CommentScan.append_ne_cons s ha (h₂ · hd) t), ih hl, List.cons_append]

lemma afterBlock_suffix (s : List Char) : afterBlock s <:+ s := by
  fun_induction afterBlock s with
  | case1 => exact List.suffix_rfl
  | case2 s => exact ⟨['*', '/'], rfl⟩
  | case3 c s _ ih => exact ih.trans (List.suffix_cons c s)

section SingleLine

variable {s : List Char}

lemma strip_lineComment (h : '\n' ∉ s) : CommentScan.lineComment.strip s = [] := by
  induction s with
  | nil => rfl
  | cons c s ih =>
    rw [List.mem_cons, not_or] at h
    rw [CommentScan.strip, if_neg (Ne.symm h.1), ih h.2]

lemma strip_blockComment (h : '\n' ∉ s) :
    CommentScan.blockComment.strip s = CommentScan.code.strip (afterBlock s) := by
  fun_induction afterBlock s with
  | case1 => rfl
  | case2 s => rw [CommentScan.strip]
  | case3 c s hs ih =>
    rw [List.mem_cons, not_or] at h
    rw [CommentScan.strip_block_cons hs, if_neg (Ne.symm h.1), ih h.2]
    rfl

lemma stripLineComments_eq_strip (h : '\n' ∉ s) : stripLineComments s = stripComments s := by
  rw [stripComments]
  fun_induction stripLineComments s with
  | case1 => rfl
  | case2 s =>
    simp only [List.mem_cons, not_or] at h
    rw [CommentScan.strip, strip_lineComment h.2.2]
  | case3 s _ ih =>
    simp only [List.mem_cons, not_or] at h
    rw [CommentScan.strip, strip_blockComment h.2.2]
    exact ih fun hm => h.2.2 ((afterBlock_suffix s).subset hm)
  | case4 c s h₁ h₂ ih =>
    rw [CommentScan.strip_code_cons h₁ h₂, ih fun hm => h (List.mem_cons_of_mem c hm)]

end SingleLine

theorem stripLineComments_of_line {line : String} (h : '\n' ∉ line.toList) :
    let s := line.toList
    stripLineComments s = (cutComment s).1 ++ stripLineComments (cutComment s).2 ∧
      stripLineComments s = stripComments s ∧
      Call.parse (.ofList (stripComments s)) = Call.parse line := by
  intro s
  have same : stripLineComments s = stripComments s := stripLineComments_eq_strip h
  have none : stripLineComments (stripComments s) = stripComments s :=
    stripLineComments_of_uncommented (CommentScan.uncommented_strip .code s)
  refine ⟨stripLineComments_eq_cut s, same, ?_⟩
  rw [Call.parse, Call.parse, String.toList_ofList, none, ← same]

theorem stripLineComments_of_line_overlaps :
    let line := "F(/*/ 1 */ 2, 3 /**// 4) //* 5"
    '\n' ∉ line.toList ∧ stripLineComments line.toList = stripComments line.toList ∧
      Call.parse (.ofList (stripComments line.toList)) = Call.parse line ∧
      stripComments line.toList = "F( 2, 3 / 4) ".toList := by
  intro line
  have h : '\n' ∉ line.toList := by decide
  obtain ⟨-, same, parsed⟩ := stripLineComments_of_line h
  exact ⟨h, same, parsed, by decide⟩

lemma isInfix_insideBraces (body : List Char) : insideBraces body <:+: body := by
  refine List.IsInfix.trans ?_ (Text.isInfix_trim body)
  rw [insideBraces]
  split
  · exact List.infix_rfl
  · next before rest hbefore =>
    split
    · exact List.infix_rfl
    · next inner after hafter =>
      refine ⟨before ++ ['\x7b'], '\x7d' :: after, ?_⟩
      rw [Text.eq_of_cut hbefore, Text.eq_of_cutLast hafter]
      simp

lemma body_of_declared {s : List Char} {d : Declaration} (h : d ∈ declared s) :
    d.body <:+: stripComments s := by
  obtain ⟨text, ht, hd⟩ := List.mem_filterMap.1 h
  obtain ⟨body, hcut, -, hbody⟩ := Declaration.read?_eq_some_iff.1 hd
  have suffix : body <:+: text := ⟨d.head ++ ['='], [], by rw [Text.eq_of_cut hcut]; simp⟩
  rw [hbody]
  exact (isInfix_insideBraces body).trans (suffix.trans ((Text.pieces_splitWhere _ _).isInfix ht))

lemma line_of_declarations {s : List Char} {d : List Char × List Char} (hd : d ∈ declarations s)
    {l : List Char} (hl : l ∈ Text.trimmedLines d.2) : l <:+: stripComments s := by
  rw [declarations_eq_map_stored] at hd
  obtain ⟨e, he, rfl⟩ := List.mem_map.1 hd
  obtain ⟨before, after, hs, -⟩ := (foldl_store (declared s)).2 e he
  obtain ⟨m, hm, rfl⟩ := List.mem_map.1 (List.mem_filter.1 hl).1
  exact (Text.isInfix_trim m).trans (((Text.pieces_lines e.body).isInfix hm).trans
    (body_of_declared (hs ▸ List.mem_append_right _ List.mem_cons_self)))

theorem stripComments_leaves_none (s : List Char) :
    let bare := stripComments s
    Uncommented bare ∧ stripComments bare = bare ∧ bare.count '\n' = s.count '\n' ∧
      declarations bare = declarations s ∧ declaredType? bare = declaredType? s ∧
      ∀ d ∈ declarations s, ∀ l ∈ Text.trimmedLines d.2, l <:+: bare ∧ stripLineComments l = l := by
  intro bare
  have none : Uncommented bare := CommentScan.uncommented_strip .code s
  have again : stripComments bare = bare := CommentScan.strip_of_uncommented none
  refine ⟨none, again, CommentScan.count_strip .code s, ?_, ?_, fun d hd l hl => ?_⟩
  · rw [declarations, declarations, again]
  · funext name
    rw [declaredType?, declaredType?, again]
  · have part : l <:+: bare := line_of_declarations hd hl
    exact ⟨part, stripLineComments_of_uncommented (none.part part)⟩

theorem stripComments_leaves_none_relay :
    let s := "Gfx relay_dl[] = \x7b /* a;\n*/ gsSPBranchList(/*/ b */ next_dl), // c".toList
    let d := ("relay_dl".toList, "\x7b \n gsSPBranchList( next_dl),".toList)
    let l := "gsSPBranchList( next_dl),".toList
    d ∈ declarations s ∧ l ∈ Text.trimmedLines d.2 ∧ l <:+: stripComments s ∧
      stripLineComments l = l := by
  intro s d l
  have hd : d ∈ declarations s := by decide +kernel
  have hl : l ∈ Text.trimmedLines d.2 := by decide +kernel
  exact ⟨hd, hl, (stripComments_leaves_none s).2.2.2.2.2 d hd l hl⟩

end SceneDraw.Source
