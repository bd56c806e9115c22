import SceneDraw.Proofs.Basic
import SceneDraw.Proofs.Call.Parentheses

namespace SceneDraw.Call

/-- Brackets that are open behind a character. One that closes nothing is passed over. -/
def level (depth : Nat) (c : Char) : Nat :=
  if isOpener c then depth + 1 else if isCloser c then depth - 1 else depth

structure IsPiece (depth : Nat) (text : List Char) : Prop where
  inside : ∀ p c, p ++ [c] <+: text → p.foldl level depth = 0 → c ≠ ',' ∧ c ≠ ')'
  closed : text.foldl level depth = 0

def Closes (body : List Char) (pieces : List (List Char)) : Prop :=
  pieces ≠ [] ∧ (∀ p ∈ pieces, IsPiece 0 p) ∧
    ∃ rest, body = [','].intercalate pieces ++ ')' :: rest

def prepend (text : List Char) (r : List (List Char) × Bool) : List (List Char) × Bool :=
  (r.1.modifyHead (text ++ ·), r.2)

lemma prepend_nil (r : List (List Char) × Bool) : prepend [] r = r := by
  rcases r with ⟨_ | ⟨p, ps⟩, closed⟩ <;> rfl

lemma prepend_prepend (s t : List Char) (r : List (List Char) × Bool) :
    prepend s (prepend t r) = prepend (s ++ t) r := by
  rcases r with ⟨_ | ⟨p, ps⟩, closed⟩ <;> simp [prepend]

lemma isPiece_nil : IsPiece 0 [] := ⟨fun p c h => by simp at h, rfl⟩

lemma isPiece_cons_iff {depth : Nat} {c : Char} {s : List Char} :
    IsPiece depth (c :: s) ↔ (depth = 0 → c ≠ ',' ∧ c ≠ ')') ∧ IsPiece (level depth c) s := by
  constructor
  · rintro ⟨inside, closed⟩
    refine ⟨inside [] c (by simp), fun p d hp => ?_, closed⟩
    exact inside (c :: p) d (List.cons_prefix_cons.2 ⟨rfl, hp⟩)
  · rintro ⟨first, inside, closed⟩
    refine ⟨fun p d hp => ?_, closed⟩
    cases p with
    | nil =>
      obtain rfl := (List.cons_prefix_cons.1 hp).1
      exact first
    | cons b p =>
      obtain ⟨rfl, hp'⟩ := List.cons_prefix_cons.1 hp
      exact inside p d hp'

lemma IsPiece.append {depth : Nat} {s t : List Char} (hs : IsPiece depth s) (ht : IsPiece 0 t) :
    IsPiece depth (s ++ t) := by
  induction s generalizing depth with
  | nil =>
    obtain rfl : depth = 0 := hs.closed
    exact ht
  | cons c s ih =>
    obtain ⟨hc, hs⟩ := isPiece_cons_iff.1 hs
    exact isPiece_cons_iff.2 ⟨hc, ih hs⟩

lemma isPiece_of_forall {text : List Char}
    (h : ∀ c ∈ text, isOpener c = false ∧ c ≠ ',' ∧ c ≠ ')') : IsPiece 0 text := by
  induction text with
  | nil => exact isPiece_nil
  | cons c s ih =>
    obtain ⟨⟨opener, apart⟩, hs⟩ := List.forall_mem_cons.1 h
    have flat : level 0 c = 0 := by simp [level, opener]
    refine isPiece_cons_iff.2 ⟨fun _ => apart, ?_⟩
    rw [flat]
    exact ih hs

lemma isPiece_of_allBlank {gap : List Char} (h : Text.allBlank gap = true) : IsPiece 0 gap := by
  refine isPiece_of_forall fun c hc => ?_
  have apart (d : Char) (hd : Text.isBlank d = false) : c ≠ d :=
    Text.ne_of_isBlank (List.all_eq_true.1 h c hc) hd
  exact ⟨by simp [isOpener, apart '(' rfl, apart '\x7b' rfl], apart ',' rfl, apart ')' rfl⟩

lemma level_eq {depth : Nat} {c : Char} (h : 0 ≤ depth + nesting isOpener isCloser [c]) :
    (level depth c : Int) = depth + nesting isOpener isCloser [c] := by
  rw [level]
  split_ifs with opener closer
  · rw [nesting_opener opener]
    rfl
  · rw [nesting_closer closer] at h ⊢
    omega
  · rw [nesting_other (Bool.eq_false_iff.2 opener) (Bool.eq_false_iff.2 closer), Int.add_zero]

lemma isPiece_of_nested {depth : Nat} {text : List Char}
    (nested : Nested isOpener isCloser depth text)
    (commas : ∀ p, p ++ [','] <+: text → 0 < depth + nesting isOpener isCloser p)
    (closed : depth + nesting isOpener isCloser text = 0) : IsPiece depth text := by
  induction text generalizing depth with
  | nil =>
    obtain rfl : depth = 0 := by simpa [nesting] using closed
    exact isPiece_nil
  | cons c t ih =>
    rw [nested_cons_iff] at nested
    have next := level_eq nested.2.nonneg
    rw [nesting_cons c t, ← Int.add_assoc, ← next] at closed
    rw [← next] at nested
    refine isPiece_cons_iff.2 ⟨?_, ih nested.2 (fun p hp => ?_) closed⟩
    · rintro rfl
      refine ⟨?_, ?_⟩ <;> rintro rfl
      · simpa [nesting] using commas [] (List.cons_prefix_cons.2 ⟨rfl, List.nil_prefix⟩)
      · have : nesting isOpener isCloser [')'] = -1 := nesting_closer rfl
        omega
    · have := commas (c :: p) (List.cons_prefix_cons.2 ⟨rfl, hp⟩)
      rwa [nesting_cons c p, ← Int.add_assoc, ← next] at this

lemma splitArgs_close (s : List Char) : splitArgs 0 (')' :: s) = ([[]], true) := rfl

lemma splitArgs_comma (s : List Char) :
    splitArgs 0 (',' :: s) = ([] :: (splitArgs 0 s).1, (splitArgs 0 s).2) := rfl

lemma splitArgs_level {depth : Nat} {c : Char} (h : depth = 0 → c ≠ ',' ∧ c ≠ ')') (s : List Char) :
    splitArgs depth (c :: s) = prepend [c] (splitArgs (level depth c) s) := by
  rw [splitArgs.eq_def, level]
  dsimp only
  by_cases opener : isOpener c = true
  · rw [if_pos opener, if_pos opener]
    rfl
  rw [if_neg opener, if_neg opener]
  cases depth with
  | zero =>
    have same : (if isCloser c then 0 - 1 else 0) = 0 := ite_self 0
    dsimp only
    rw [if_neg (h rfl).2, if_neg (h rfl).1, same]
    rfl
  | succ depth => rfl

lemma splitArgs_piece {depth : Nat} {text : List Char} (h : IsPiece depth text) (s : List Char) :
    splitArgs depth (text ++ s) = prepend text (splitArgs 0 s) := by
  induction text generalizing depth with
  | nil =>
    obtain rfl : depth = 0 := h.closed
    exact (prepend_nil _).symm
  | cons c t ih =>
    obtain ⟨hc, ht⟩ := isPiece_cons_iff.1 h
    rw [List.cons_append, splitArgs_level hc, ih ht, prepend_prepend]
    rfl

lemma splitArgs_of_closes {body : List Char} {pieces : List (List Char)} (h : Closes body pieces) :
    splitArgs 0 body = (pieces, true) := by
  obtain ⟨hne, hp, rest, rfl⟩ := h
  obtain ⟨p, ps, rfl⟩ := List.exists_cons_of_ne_nil hne
  clear hne
  induction ps generalizing p with
  | nil =>
    rw [List.intercalate_singleton, splitArgs_piece (hp p List.mem_cons_self), splitArgs_close]
    simp [prepend]
  | cons q ps ih =>
    obtain ⟨hp, hps⟩ := List.forall_mem_cons.1 hp
    rw [List.intercalate_cons_cons, List.append_assoc, List.append_assoc, List.singleton_append,
      splitArgs_piece hp, splitArgs_comma, ih q hps]
    simp [prepend]

lemma closes_of_splitArgs {depth : Nat} {body : List Char} {pieces : List (List Char)}
    (h : splitArgs depth body = (pieces, true)) :
    ∃ p ps rest, pieces = p :: ps ∧ IsPiece depth p ∧ (∀ q ∈ ps, IsPiece 0 q) ∧
      body = [','].intercalate (p :: ps) ++ ')' :: rest := by
  induction body generalizing depth pieces with
  | nil => cases h
  | cons c s ih =>
    by_cases hc : depth = 0 → c ≠ ',' ∧ c ≠ ')'
    · rw [splitArgs_level hc] at h
      obtain ⟨⟨others, closed⟩, hs⟩ : ∃ r, splitArgs (level depth c) s = r := ⟨_, rfl⟩
      rw [hs] at h
      obtain ⟨rfl, rfl⟩ := Prod.mk.inj h
      obtain ⟨p, ps, rest, rfl, piece, pieces, rfl⟩ := ih hs
      exact ⟨c :: p, ps, rest, rfl, isPiece_cons_iff.2 ⟨hc, piece⟩, pieces, by cases ps <;> rfl⟩
    · rw [Classical.not_imp, not_and_or, not_ne_iff, not_ne_iff] at hc
      obtain ⟨rfl, rfl | rfl⟩ := hc
      · rw [splitArgs_comma] at h
        obtain ⟨⟨others, closed⟩, hs⟩ : ∃ r, splitArgs 0 s = r := ⟨_, rfl⟩
        rw [hs] at h
        obtain ⟨rfl, rfl⟩ := Prod.mk.inj h
        obtain ⟨p, ps, rest, rfl, piece, pieces, rfl⟩ := ih hs
        exact ⟨[], p :: ps, rest, rfl, isPiece_nil, List.forall_mem_cons.2 ⟨piece, pieces⟩, rfl⟩
      · obtain rfl := (Prod.mk.inj h).1
        exact ⟨[], [], s, rfl, isPiece_nil, nofun, rfl⟩

lemma splitArgs_ne_nil (depth : Nat) (s : List Char) : (splitArgs depth s).1 ≠ [] := by
  induction s generalizing depth with
  | nil => exact List.cons_ne_nil _ _
  | cons c s ih =>
    by_cases hc : depth = 0 → c ≠ ',' ∧ c ≠ ')'
    · rw [splitArgs_level hc, prepend]
      exact List.modifyHead_eq_nil_iff.not.2 (ih _)
    · rw [Classical.not_imp, not_and_or, not_ne_iff, not_ne_iff] at hc
      obtain ⟨rfl, rfl | rfl⟩ := hc
      · exact List.cons_ne_nil _ _
      · exact List.cons_ne_nil _ _

lemma splitArgs_eq_iff {body : List Char} {pieces : List (List Char)} :
    splitArgs 0 body = (pieces, true) ↔ Closes body pieces := by
  refine ⟨fun h => ?_, splitArgs_of_closes⟩
  obtain ⟨p, ps, rest, rfl, piece, pieces, hbody⟩ := closes_of_splitArgs h
  exact ⟨List.cons_ne_nil p ps, List.forall_mem_cons.2 ⟨piece, pieces⟩, rest, hbody⟩

variable {name : String} {pieces : List (List Char)} {piece : List Char}

lemma readArg_of_blank (h : Text.allBlank piece = true) :
    readArg name piece = .error (.emptyArgument name) := by
  rw [readArg, Text.trim_eq_nil_iff.2 h]

lemma readArg_of_nonblank (h : Text.allBlank piece = false) :
    readArg name piece = .ok (.ofChars (core piece)) := by
  have trimmed : Text.trim piece ≠ [] := fun ht =>
    Bool.false_ne_true (h.symm.trans (Text.trim_eq_nil_iff.1 ht))
  obtain ⟨c, s, hs⟩ := List.exists_cons_of_ne_nil trimmed
  rw [readArg, core, hs]

lemma mapM_readArg_of_blank (h : ∃ piece ∈ pieces, Text.allBlank piece = true) :
    pieces.mapM (readArg name) = .error (.emptyArgument name) := by
  induction pieces with
  | nil =>
    obtain ⟨piece, hp, -⟩ := h
    cases hp
  | cons p ps ih =>
    rw [List.mapM_cons]
    cases hp : Text.allBlank p with
    | true =>
      rw [readArg_of_blank hp]
      rfl
    | false =>
      have later : ∃ piece ∈ ps, Text.allBlank piece = true := by
        obtain ⟨piece, hm, hb⟩ := h
        obtain rfl | hm := List.mem_cons.1 hm
        · cases hp.symm.trans hb
        · exact ⟨piece, hm, hb⟩
      rw [readArg_of_nonblank hp, ih later]
      rfl

lemma mapM_readArg_of_nonblank (h : ∀ piece ∈ pieces, Text.allBlank piece = false) :
    pieces.mapM (readArg name) = .ok (pieces.map fun piece => .ofChars (core piece)) := by
  rw [mapM_eq_ok_iff, List.forall₂_map_right_iff, List.forall₂_same]
  exact fun piece hp => readArg_of_nonblank (h piece hp)

lemma readArgs_of_closes {body : List Char} (h : Closes body pieces)
    (hp : ∀ piece, pieces = [piece] → Text.allBlank piece = false) :
    readArgs name body = pieces.mapM (readArg name) := by
  rw [readArgs, splitArgs_of_closes h]
  match pieces with
  | [] => exact absurd rfl h.1
  | [piece] =>
    dsimp only
    rw [hp piece rfl, if_neg Bool.false_ne_true]
  | _ :: _ :: _ => rfl

lemma readArgs_of_blank {body : List Char} (h : Closes body [piece])
    (hp : Text.allBlank piece = true) : readArgs name body = .ok [] := by
  rw [readArgs, splitArgs_of_closes h]
  dsimp only
  rw [if_pos hp]

lemma readArgs_of_not_closes (name : String) {body : List Char} (h : ∀ pieces, ¬ Closes body pieces) :
    readArgs name body = .error (.unterminated name) ∨
      readArgs name body = .error (.emptyArgument name) := by
  obtain ⟨⟨pieces, closed⟩, hs⟩ : ∃ r, splitArgs 0 body = r := ⟨_, rfl⟩
  obtain rfl : closed = false := by
    cases closed with
    | false => rfl
    | true => exact absurd (splitArgs_eq_iff.1 hs) (h pieces)
  rw [readArgs, hs]
  dsimp only
  by_cases hb : ∃ piece ∈ pieces.dropLast, Text.allBlank piece = true
  · right
    rw [mapM_readArg_of_blank hb]
    rfl
  · left
    rw [mapM_readArg_of_nonblank fun piece hp => by simpa using fun h => hb ⟨piece, hp, h⟩]
    rfl

def readOthers (name : String) (s : List Char) : Except ParseError (List Arg) :=
  match splitArgs 0 s with
  | (pieces, false) => do
    let _ ← pieces.dropLast.mapM (readArg name)
    .error (.unterminated name)
  | (pieces, true) => pieces.mapM (readArg name)

lemma readArgs_piece (h : IsPiece 0 piece) (nonblank : Text.allBlank piece = false) (s : List Char) :
    readArgs name (piece ++ ',' :: s) =
      (readOthers name s).map (Arg.ofChars (core piece) :: ·) := by
  have several := splitArgs_ne_nil 0 s
  obtain ⟨⟨pieces, closed⟩, hs⟩ : ∃ r, splitArgs 0 s = r := ⟨_, rfl⟩
  rw [hs] at several
  obtain ⟨p, ps, rfl⟩ := List.exists_cons_of_ne_nil several
  have split : splitArgs 0 (piece ++ ',' :: s) = (piece :: p :: ps, closed) := by
    rw [splitArgs_piece h, splitArgs_comma, hs]
    simp [prepend]
  rw [readArgs, split, readOthers, hs]
  cases closed with
  | false =>
    dsimp only
    rw [List.dropLast_cons_cons, List.mapM_cons, readArg_of_nonblank nonblank]
    cases (p :: ps).dropLast.mapM (readArg name) <;> rfl
  | true =>
    dsimp only
    rw [List.mapM_cons, readArg_of_nonblank nonblank]
    cases (p :: ps).mapM (readArg name) <;> rfl

end SceneDraw.Call
