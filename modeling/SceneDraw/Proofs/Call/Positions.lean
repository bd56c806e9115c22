import SceneDraw.Proofs.Call.Line

namespace SceneDraw.Call

def Opens (line : String) (name body : List Char) : Prop :=
  ∃ indent gap, indent.all isSpace = true ∧ Source.isIdentifier name = true ∧
    gap.all isSpace = true ∧
    Source.stripLineComments line.toList = indent ++ name ++ gap ++ '(' :: body

def IsBlankSymbol (a : Arg) : Prop := ∃ text, a = .symbol text ∧ Text.allBlank text.toList = true

lemma isIdentifier_of_isNameStart {c : Char} {s : List Char} (h : isNameStart c = true)
    (hs : ∀ d ∈ s, isNameChar d = true) : Source.isIdentifier (c :: s) = true := by
  have letter : (97 ≤ c.toNat ∧ c.toNat ≤ 122) ∨ (65 ≤ c.toNat ∧ c.toNat ≤ 90) ∨ c.toNat = 95 := by
    simp only [isNameStart, Bool.or_eq_true, Bool.and_eq_true, decide_eq_true_eq, beq_iff_eq,
      or_assoc] at h
    exact h.imp id (.imp id fun h => congrArg Char.toNat h)
  have digit : ('0' ≤ c && c ≤ '9') = false := by
    rw [Bool.eq_false_iff]
    intro digit
    rw [Bool.and_eq_true, decide_eq_true_eq, decide_eq_true_eq] at digit
    have : 48 ≤ c.toNat ∧ c.toNat ≤ 57 := digit
    omega
  have all : (c :: s).all Source.isIdentifierChar = true := by
    refine List.all_eq_true.2 (List.forall_mem_cons.2 ⟨?_, fun d hd => ?_⟩)
    · rw [← isNameChar_eq_isIdentifierChar, isNameChar, h, Bool.true_or]
    · rw [← isNameChar_eq_isIdentifierChar, hs d hd]
  rw [Source.isIdentifier, digit, all]
  rfl

lemma of_splitName {s name rest : List Char} (h : splitName s = some (name, rest)) :
    Source.isIdentifier name = true ∧ s = name ++ rest := by
  cases s with
  | nil => cases h
  | cons c s =>
    rw [splitName, Option.ite_none_right_eq_some] at h
    obtain ⟨start, h⟩ := h
    obtain ⟨rfl, rfl⟩ := Prod.mk.inj (Option.some.inj h)
    refine ⟨isIdentifier_of_isNameStart start fun d hd => ?_, ?_⟩
    · exact List.mem_takeWhile_imp hd
    · rw [List.cons_append, List.takeWhile_append_dropWhile]

lemma parse_of_opens {line : String} {name body : List Char} (h : Opens line name body) :
    parse line = (readArgs (.ofList name) body).map fun args => some ⟨.ofList name, args⟩ := by
  obtain ⟨indent, gap, hindent, hname, hgap, hcode⟩ := h
  have split := splitName_front hindent hname hgap body
  have opened : (gap ++ '(' :: body).dropWhile isSpace = '(' :: body :=
    List.dropWhile_append_of_pos (List.all_eq_true.1 hgap)
  rw [parse, hcode, parseCode, split]
  dsimp only
  rw [opened]
  change (readArgs (.ofList name) body >>= fun args => _) = _
  cases readArgs (.ofList name) body <;> rfl

lemma exists_opens {line : String} {c : Call} (h : parse line = .ok (some c)) :
    ∃ name body, Opens line name body ∧ c.name = .ofList name ∧
      readArgs (.ofList name) body = .ok c.args := by
  rw [parse, parseCode] at h
  split at h
  · cases h
  · next name rest hname =>
    split at h
    · next body hbody =>
      obtain ⟨hid, hcode⟩ := of_splitName hname
      obtain ⟨args, hargs, h⟩ := ok_of_bind h
      obtain rfl := Option.some.inj (Except.ok.inj h)
      refine ⟨name, body, ⟨(Source.stripLineComments line.toList).takeWhile isSpace,
        rest.takeWhile isSpace, List.all_takeWhile, hid, List.all_takeWhile, ?_⟩, rfl, hargs⟩
      rw [← hbody, List.append_assoc, List.takeWhile_append_dropWhile, List.append_assoc, ← hcode,
        List.takeWhile_append_dropWhile]
    · cases h

lemma isBlankSymbol_ofChars_iff {s : List Char} :
    IsBlankSymbol (.ofChars s) ↔ Text.allBlank s = true := by
  constructor
  · rintro ⟨text, h, blank⟩
    have symbol : text = .ofList (Text.trim s) := by
      rw [Arg.ofChars] at h
      split at h
      · cases h
      · split at h
        · cases h
        · exact (Arg.symbol.inj h).symm
    rw [symbol, String.toList_ofList, ← Text.trim_eq_nil_iff, Text.trim_trim] at blank
    exact Text.trim_eq_nil_iff.1 blank
  · intro h
    refine ⟨"", ?_, rfl⟩
    rw [Arg.ofChars, Text.trim_eq_nil_iff.2 h]
    rfl

lemma isBlankSymbol_core_iff {piece : List Char} :
    IsBlankSymbol (.ofChars (core piece)) ↔ Wraps [] piece := by
  have spec := coreOf_core piece
  have bare : core [] = [] := stripParens_of_none rfl
  rw [isBlankSymbol_ofChars_iff, ← Text.trim_eq_nil_iff, spec.trimmed]
  exact ⟨fun h => h ▸ spec.wraps, fun h => (core_of_wraps h).trans bare⟩

/--
A line that opens a list and closes it is read as a call with one argument for each piece, or with
none if all of the list is blank; no other line is read as a call. One blank piece among several is
an error, and so is a list that is not closed. But blanks in parentheses are not a blank piece: they
are read as a blank symbol, and nothing else is.
-/
theorem blank_positions (line : String) :
    (∀ name body pieces, Opens line name body → Closes body pieces →
      (∀ piece, pieces = [piece] → Text.allBlank piece = true →
        parse line = .ok (some ⟨.ofList name, []⟩)) ∧
      (pieces.length ≠ 1 → (∃ piece ∈ pieces, Text.allBlank piece = true) →
        parse line = .error (.emptyArgument (.ofList name))) ∧
      ((∀ piece ∈ pieces, Text.allBlank piece = false) →
        ∃ args, parse line = .ok (some ⟨.ofList name, args⟩) ∧
          List.Forall₂ (fun piece a => a = Arg.ofChars (core piece) ∧
            (IsBlankSymbol a ↔ Wraps [] piece)) pieces args)) ∧
    (∀ name body, Opens line name body → (∀ pieces, ¬ Closes body pieces) →
      parse line = .error (.unterminated (.ofList name)) ∨
        parse line = .error (.emptyArgument (.ofList name))) ∧
    ∀ c, parse line = .ok (some c) →
      ∃ name body pieces, Opens line name body ∧ Closes body pieces ∧ c.name = .ofList name := by
  refine ⟨fun name body pieces opens closes => ⟨?_, ?_, ?_⟩, ?_, ?_⟩
  · rintro piece rfl blank
    rw [parse_of_opens opens, readArgs_of_blank closes blank]
    rfl
  · intro several blank
    have pieces_ne (piece) (h : pieces = [piece]) : Text.allBlank piece = false :=
      absurd (congrArg List.length h) several
    rw [parse_of_opens opens, readArgs_of_closes closes pieces_ne, mapM_readArg_of_blank blank]
    rfl
  · intro nonblank
    have pieces_ne (piece) (h : pieces = [piece]) : Text.allBlank piece = false :=
      nonblank piece (h ▸ List.mem_singleton_self piece)
    refine ⟨pieces.map fun piece => .ofChars (core piece), ?_, ?_⟩
    · rw [parse_of_opens opens, readArgs_of_closes closes pieces_ne,
        mapM_readArg_of_nonblank nonblank]
      rfl
    · rw [List.forall₂_map_right_iff, List.forall₂_same]
      exact fun piece _ => ⟨rfl, isBlankSymbol_core_iff⟩
  · intro name body opens unclosed
    rw [parse_of_opens opens]
    obtain h | h := readArgs_of_not_closes (.ofList name) unclosed <;> rw [h]
    · exact .inl rfl
    · exact .inr rfl
  · intro c hc
    obtain ⟨name, body, opens, hname, hargs⟩ := exists_opens hc
    by_cases closed : ∃ pieces, Closes body pieces
    · obtain ⟨pieces, closes⟩ := closed
      exact ⟨name, body, pieces, opens, closes, hname⟩
    · obtain h | h := readArgs_of_not_closes (.ofList name) (not_exists.1 closed) <;>
        cases h.symm.trans hargs

theorem blank_positions_scroll :
    (∃ args, parse " scroll (tree_vtx, (\t( )), \x7b1, 2\x7d); /* ) */" =
        .ok (some ⟨"scroll", args⟩) ∧
      List.Forall₂ (fun piece a => a = Arg.ofChars (core piece) ∧
          (IsBlankSymbol a ↔ Wraps [] piece))
        ["tree_vtx".toList, " (\t( ))".toList, " \x7b1, 2\x7d".toList] args) ∧
      parse "scroll(tree_vtx, (), )" = .error (.emptyArgument "scroll") ∧
      parse "scroll( /* 1, */ )" = .ok (some ⟨"scroll", []⟩) := by
  have opens (indent gap : List Char) (hi : indent.all isSpace = true) (hg : gap.all isSpace = true)
      {line : String} {body : List Char}
      (h : Source.stripLineComments line.toList = indent ++ "scroll".toList ++ gap ++ '(' :: body) :
      Opens line "scroll".toList body :=
    ⟨indent, gap, hi, by decide, hg, h⟩
  refine ⟨?_, ?_, ?_⟩
  · exact ((blank_positions _).1 _ "tree_vtx, (\t( )), \x7b1, 2\x7d); ".toList _
      (opens [' '] [' '] rfl rfl (by decide +kernel))
      (splitArgs_eq_iff.1 (by decide +kernel))).2.2 (by decide +kernel)
  · exact ((blank_positions _).1 _ "tree_vtx, (), )".toList ["tree_vtx".toList, " ()".toList, [' ']]
      (opens [] [] rfl rfl (by decide +kernel))
      (splitArgs_eq_iff.1 (by decide +kernel))).2.1 (by decide) (by decide +kernel)
  · exact ((blank_positions _).1 _ "  )".toList ["  ".toList]
      (opens [] [] rfl rfl (by decide +kernel))
      (splitArgs_eq_iff.1 (by decide +kernel))).1 _ rfl (by decide)

theorem parenthesized_nothing_read : parse "f(())" = .ok (some ⟨"f", [.symbol ""]⟩) := by
  decide +kernel

end SceneDraw.Call
