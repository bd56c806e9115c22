import SceneDraw.Proofs.Source.Comment
import SceneDraw.Source.Conditional

namespace SceneDraw.Source

open Text (trimEnd dropReturn)

lemma isPrefixOf?_concat {p : List Char} {c : Char} (h : c ∉ p) (s : List Char) :
    p.isPrefixOf? (s ++ [c]) = (p.isPrefixOf? s).map (· ++ [c]) := by
  induction p generalizing s with
  | nil => cases s <;> rfl
  | cons d p ih =>
    rw [List.mem_cons, not_or] at h
    cases s with
    | nil => simp [List.isPrefixOf?, Ne.symm h.1]
    | cons e s =>
      simp only [List.cons_append, List.isPrefixOf?, ih h.2]
      split_ifs <;> rfl

lemma isPrefixOf_concat {p : List Char} {c : Char} (h : c ∉ p) (s : List Char) :
    p.isPrefixOf (s ++ [c]) = p.isPrefixOf s := by
  rw [← List.isSome_isPrefixOf?_eq_isPrefixOf, isPrefixOf?_concat h, Option.isSome_map,
    List.isSome_isPrefixOf?_eq_isPrefixOf]

namespace Directive

lemma ofLine?_concat_return (l : List Char) : ofLine? (l ++ ['\r']) = ofLine? l := by
  have blank : Text.isBlank '\r' = true := rfl
  by_cases hl : Text.trimStart l = []
  · simp only [ofLine?, Text.trimStart_concat blank, hl, if_pos]
  · have starts (p : List Char) (hp : '\r' ∉ p) :
        Text.afterPrefix? p (Text.trimStart l ++ ['\r']) =
          (Text.afterPrefix? p (Text.trimStart l)).map (· ++ ['\r']) := isPrefixOf?_concat hp _
    simp only [ofLine?, Text.trimStart_concat blank, if_neg hl, starts "#ifdef".toList (by decide),
      starts "#ifndef".toList (by decide),
      isPrefixOf_concat (show '\r' ∉ "#else".toList by decide),
      isPrefixOf_concat (show '\r' ∉ "#endif".toList by decide)]
    cases Text.afterPrefix? "#ifdef".toList (Text.trimStart l) with
    | some rest => simp only [Option.map_some, Text.trim_concat blank]
    | none =>
      cases Text.afterPrefix? "#ifndef".toList (Text.trimStart l) with
      | some rest => simp only [Option.map_some, Option.map_none, Text.trim_concat blank]
      | none => simp only [Option.map_none]

lemma ofLine?_dropReturn (l : List Char) : ofLine? (dropReturn l) = ofLine? l := by
  induction l using List.reverseRecOn with
  | nil => rfl
  | append_singleton l c _ =>
    rw [Text.dropReturn_concat]
    split_ifs with hc
    · rw [hc, ofLine?_concat_return]
    · rfl

def next : Directive → List Block → Bool → List Block × Bool
  | .open wanted, blocks, active => (⟨wanted, active⟩ :: blocks, active && wanted)
  | .turn, b :: blocks, _ => (⟨!b.wanted, b.outer⟩ :: blocks, b.outer && !b.wanted)
  | .close, b :: blocks, _ => (blocks, b.outer)
  | _, [], active => ([], active)

end Directive

lemma selectFrom_cons (blocks : List Block) (active : Bool) (l : List Char)
    (ls : List (List Char)) :
    selectFrom blocks active (l :: ls) =
      match Directive.ofLine? l with
      | some d => selectFrom (d.next blocks active).1 (d.next blocks active).2 ls
      | none => (if active then [l] else []) ++ selectFrom blocks active ls := by
  rw [selectFrom.eq_def]
  dsimp only
  cases Directive.ofLine? l with
  | none => split_ifs <;> rfl
  | some d => cases d <;> cases blocks <;> rfl

def unlines (ls : List (List Char)) : List Char := ls.flatMap (· ++ ['\n'])

lemma unlines_append (ks ls : List (List Char)) : unlines (ks ++ ls) = unlines ks ++ unlines ls :=
  List.flatMap_append

lemma unlines_singleton (l : List Char) : unlines [l] = l ++ ['\n'] := List.append_nil _

lemma trimEnd_unlines (ls : List (List Char)) : trimEnd (unlines ls) = trimEnd (Text.joinLines ls) := by
  induction ls with
  | nil => rfl
  | cons l ls ih =>
    cases ls with
    | nil => rw [unlines_singleton, Text.trimEnd_concat rfl]; rfl
    | cons m ls =>
      have joined : Text.joinLines (l :: m :: ls) = (l ++ ['\n']) ++ Text.joinLines (m :: ls) := by
        simp [Text.joinLines]
      rw [joined, ← Text.trimEnd_append ih, ← unlines_singleton, ← unlines_append]
      rfl

lemma trimEnd_select_singleton (blocks : List Block) (active : Bool) (l : List Char) :
    trimEnd (unlines (selectFrom blocks active [l])) =
      if Directive.ofLine? l = none ∧ active = true then trimEnd l else [] := by
  rw [selectFrom_cons]
  cases Directive.ofLine? l with
  | some d => rfl
  | none =>
    cases active with
    | false => rfl
    | true => exact (congrArg trimEnd (unlines_singleton l)).trans (Text.trimEnd_concat rfl l)

lemma trimEnd_select_lines (blocks : List Block) (active : Bool) {ls : List (List Char)}
    (h : ∀ l ∈ ls, '\n' ∉ l) :
    trimEnd (unlines (selectFrom blocks active (Text.lines (['\n'].intercalate ls)))) =
      trimEnd (unlines (selectFrom blocks active (ls.map dropReturn))) := by
  induction ls generalizing blocks active with
  | nil => rfl
  | cons l ls ih =>
    rw [List.forall_mem_cons] at h
    cases ls with
    | nil =>
      -- Without a line feed the last line keeps its carriage return, and is no line if it is empty.
      rw [List.intercalate_singleton, Text.lines_of_not_mem h.1, List.map_singleton,
        trimEnd_select_singleton, Directive.ofLine?_dropReturn, Text.trimEnd_dropReturn]
      by_cases hl : l = []
      · rw [if_pos hl, hl, show trimEnd [] = [] from rfl, ite_self]
        rfl
      · rw [if_neg hl, trimEnd_select_singleton]
    | cons m ls =>
      rw [List.intercalate_cons_cons, List.append_assoc, List.singleton_append,
        Text.lines_append_newline h.1, List.map_cons, selectFrom_cons, selectFrom_cons]
      cases Directive.ofLine? (dropReturn l) with
      | some d => exact ih _ _ h.2
      | none =>
        simp only [unlines_append]
        exact Text.trimEnd_append (ih _ _ h.2) _

lemma trimEnd_keepVersion (s : List Char) :
    trimEnd (keepVersion s) =
      trimEnd (unlines (selectFrom [] true ((Text.split '\n' s).map dropReturn))) := by
  rw [keepVersion, ← trimEnd_unlines, ← trimEnd_select_lines _ _ fun _ => Text.not_mem_of_mem_split,
    Text.split_eq_splitOn, List.intercalate_splitOn]

/--
A line on which the selection of lines and the removal of comments do not meet: a directive stands
outside of comments, lets none go on after it and reads the same without them, and no comment that
takes the end of a line follows a carriage return.
-/
structure CommentScan.Apart (st : CommentScan) (l : List Char) : Prop where
  directive : (Directive.ofLine? l).isSome ∨ (Directive.ofLine? (st.strip l)).isSome →
    st = code ∧ (st.after l).newline = code ∧ Directive.ofLine? (st.strip l) = Directive.ofLine? l
  ending : dropReturn (st.strip l) = st.strip (dropReturn l)

def CommentScan.AllApart : CommentScan → List (List Char) → Prop
  | _, [] => True
  | st, l :: ls => st.Apart l ∧ (st.after l).newline.AllApart ls

instance (st : CommentScan) (l : List Char) : Decidable (st.Apart l) :=
  decidable_of_iff ((_ → _) ∧ _) ⟨fun h => ⟨h.1, h.2⟩, fun h => ⟨h.1, h.2⟩⟩

instance CommentScan.decidableAllApart :
    (st : CommentScan) → (ls : List (List Char)) → Decidable (st.AllApart ls)
  | _, [] => .isTrue trivial
  | st, l :: ls =>
    have := decidableAllApart (st.after l).newline ls
    inferInstanceAs (Decidable (st.Apart l ∧ _))

lemma strip_select {ls : List (List Char)} {st kept : CommentScan} (h : st.AllApart ls)
    (blocks : List Block) (active : Bool) (ht : active = true → kept = st)
    (hf : active = false → kept = .code) :
    kept.strip (unlines (selectFrom blocks active (ls.map dropReturn))) =
      unlines (selectFrom blocks active ((st.stripLines ls).map dropReturn)) := by
  -- While lines are left out, the scan of what is kept stands still, and not in a comment: only a
  -- directive outside of comments ends or begins that.
  induction ls generalizing st kept blocks active with
  | nil => cases kept <;> rfl
  | cons l ls ih =>
    obtain ⟨hl, hls⟩ := h
    rw [CommentScan.stripLines, List.map_cons, List.map_cons, selectFrom_cons, selectFrom_cons,
      Directive.ofLine?_dropReturn, Directive.ofLine?_dropReturn]
    by_cases hd : (Directive.ofLine? l).isSome ∨ (Directive.ofLine? (st.strip l)).isSome
    · obtain ⟨rfl, outside, same⟩ := hl.directive hd
      have hk : kept = .code := by
        cases active with
        | true => exact ht rfl
        | false => exact hf rfl
      obtain ⟨d, hd⟩ := Option.isSome_iff_exists.1 (hd.elim id (same ▸ ·))
      rw [outside] at hls
      rw [outside, same, hd]
      exact ih hls _ _ (fun _ => hk) fun _ => hk
    · rw [not_or, Option.not_isSome_iff_eq_none, Option.not_isSome_iff_eq_none] at hd
      rw [hd.1, hd.2]
      cases active with
      | false => exact ih hls blocks false (fun h => absurd h Bool.false_ne_true) fun _ => hf rfl
      | true =>
        obtain rfl := ht rfl
        have step (k : List Char) (ks : List (List Char)) :
            unlines ([k] ++ ks) = k ++ '\n' :: unlines ks := by
          simp [unlines]
        dsimp only
        rw [if_pos rfl, if_pos rfl, step, step, CommentScan.strip_append_newline, hl.ending,
          CommentScan.after_dropReturn, ih hls blocks true (fun _ => rfl)
            fun h => absurd h.symm Bool.false_ne_true]

theorem trimEnd_strip_keepVersion {s : List Char} (h : CommentScan.code.AllApart (Text.split '\n' s)) :
    trimEnd (stripComments (keepVersion (stripComments s))) =
      trimEnd (stripComments (keepVersion s)) := by
  let raw := (Text.split '\n' s).map dropReturn
  have bare : trimEnd (keepVersion (stripComments s)) =
      trimEnd (CommentScan.code.strip (unlines (selectFrom [] true raw))) := by
    rw [trimEnd_keepVersion, stripComments, CommentScan.split_strip,
      ← strip_select h [] true (fun _ => rfl) nofun]
  calc trimEnd (stripComments (keepVersion (stripComments s)))
    _ = trimEnd (CommentScan.code.strip (CommentScan.code.strip (unlines (selectFrom [] true raw)))) :=
      CommentScan.trimEnd_strip .code bare
    _ = trimEnd (CommentScan.code.strip (unlines (selectFrom [] true raw))) := by
      rw [CommentScan.code_strip_strip]
    _ = trimEnd (stripComments (keepVersion s)) :=
      (CommentScan.trimEnd_strip .code (trimEnd_keepVersion s)).symm

end SceneDraw.Source
