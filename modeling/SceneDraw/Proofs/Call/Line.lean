import SceneDraw.Proofs.Call.Pieces
import SceneDraw.Proofs.Source.Removal

namespace SceneDraw.Call

structure IsArgument (text : List Char) : Prop where
  nonblank : Text.allBlank text = false
  matched : Matched isOpener isCloser text
  commas : ∀ p, p ++ [','] <+: text → 0 < nesting isOpener isCloser p
  uncommented : Source.Uncommented text

lemma forall_mem_inits_iff {text : List Char} :
    (∀ p ∈ text.inits, p ++ [','] <+: text → 0 < nesting isOpener isCloser p) ↔
      ∀ p, p ++ [','] <+: text → 0 < nesting isOpener isCloser p :=
  ⟨fun h p hp => h p ((List.mem_inits ..).2 ((List.prefix_append p [',']).trans hp)) hp,
    fun h p _ => h p⟩

instance (text : List Char) : Decidable (IsArgument text) :=
  have := decidable_of_iff _ (@forall_mem_inits_iff text)
  decidable_of_iff (_ ∧ _ ∧ _ ∧ _) ⟨fun ⟨h₁, h₂, h₃, h₄⟩ => ⟨h₁, h₂, h₃, h₄⟩,
    fun h => ⟨h.1, h.2, h.3, h.4⟩⟩

structure Slot where
  before : List Char
  text : List Char
  after : List Char
  allBlank_before : Text.allBlank before = true := by decide +kernel
  isArgument : IsArgument text := by decide +kernel
  allBlank_after : Text.allBlank after = true := by decide +kernel

def Slot.chars (a : Slot) : List Char := a.before ++ a.text ++ a.after

/--
What a line that is a call consists of. Before and after the name, blanks are ASCII ones; `blank` is
what stands between the parentheses if there are no arguments.
-/
structure Line where
  indent : List Char
  name : List Char
  gap : List Char
  blank : List Char
  slots : List Slot
  rest : List Char
  isSpace_indent : indent.all isSpace = true := by decide +kernel
  isIdentifier_name : Source.isIdentifier name = true := by decide +kernel
  isSpace_gap : gap.all isSpace = true := by decide +kernel
  allBlank_blank : Text.allBlank blank = true := by decide +kernel

namespace Line

def list (l : Line) : List Char :=
  match l.slots with
  | [] => l.blank
  | slots => [','].intercalate (slots.map Slot.chars)

def chars (l : Line) : List Char :=
  l.indent ++ l.name ++ l.gap ++ '(' :: (l.list ++ ')' :: l.rest)

end Line

lemma allBlank_chars (a : Slot) : Text.allBlank a.chars = false := by
  have nonblank : a.text.all Text.isBlank = false := a.isArgument.nonblank
  rw [Slot.chars, Text.allBlank, List.all_append, List.all_append, nonblank, Bool.and_false,
    Bool.false_and]

lemma isPiece_chars (a : Slot) : IsPiece 0 a.chars := by
  have text : IsPiece 0 a.text := isPiece_of_nested a.isArgument.matched.nested
    (fun p hp => by simpa using a.isArgument.commas p hp)
    (by simpa using a.isArgument.matched.closed)
  exact ((isPiece_of_allBlank a.allBlank_before).append text).append
    (isPiece_of_allBlank a.allBlank_after)

lemma core_chars (a : Slot) : core a.chars = core a.text :=
  core_of_wraps (.blanks a.allBlank_before .bare a.allBlank_after)

lemma readArgs_list (name : String) (l : Line) (rest : List Char) :
    readArgs name (l.list ++ ')' :: rest) = .ok (l.slots.map fun a => .ofChars (core a.text)) := by
  rw [Line.list]
  cases l.slots with
  | nil =>
    have closes : Closes (l.blank ++ ')' :: rest) [l.blank] :=
      ⟨List.cons_ne_nil _ _, List.forall_mem_singleton.2 (isPiece_of_allBlank l.allBlank_blank),
        rest, by rw [List.intercalate_singleton]⟩
    exact readArgs_of_blank closes l.allBlank_blank
  | cons a slots =>
    have closes : Closes ([','].intercalate ((a :: slots).map Slot.chars) ++ ')' :: rest)
        ((a :: slots).map Slot.chars) :=
      ⟨List.cons_ne_nil _ _, List.forall_mem_map.2 fun a _ => isPiece_chars a, rest, rfl⟩
    have nonblank : ∀ piece ∈ (a :: slots).map Slot.chars, Text.allBlank piece = false :=
      List.forall_mem_map.2 fun a _ => allBlank_chars a
    rw [readArgs_of_closes closes fun piece h => nonblank piece (h ▸ List.mem_singleton_self piece),
      mapM_readArg_of_nonblank nonblank, List.map_map]
    simp only [Function.comp_def, core_chars]

lemma isBlank_of_isSpace {c : Char} (h : isSpace c = true) : Text.isBlank c = true := by
  simp only [isSpace, Bool.or_eq_true, beq_iff_eq] at h
  rcases h with (((rfl | rfl) | rfl) | rfl) | rfl <;> rfl

lemma isNameChar_eq_isIdentifierChar (c : Char) : isNameChar c = Source.isIdentifierChar c := by
  simp only [isNameChar, isNameStart, Source.isIdentifierChar, Bool.or_assoc,
    Bool.or_comm (c == '_')]

lemma splitName_append {name rest : List Char} (h : Source.isIdentifier name = true)
    (hr : ∀ c ∈ rest.head?, isNameChar c = false) :
    splitName (name ++ rest) = some (name, rest) := by
  have inside : ∀ c ∈ name, isNameChar c = true := fun c hc =>
    (isNameChar_eq_isIdentifierChar c).trans (Source.isIdentifierChar_of_mem h hc)
  cases name with
  | nil => exact absurd h Bool.false_ne_true
  | cons c name =>
    have start : isNameStart c = true := by
      rw [Source.isIdentifier, Bool.and_eq_true, Bool.not_eq_true'] at h
      have := inside c List.mem_cons_self
      rwa [isNameChar, h.1, Bool.or_false] at this
    have stop : rest.takeWhile isNameChar = [] ∧ rest.dropWhile isNameChar = rest := by
      cases rest with
      | nil => exact ⟨rfl, rfl⟩
      | cons d rest =>
        have hd : isNameChar d = false := hr d rfl
        exact ⟨by rw [List.takeWhile_cons, hd]; rfl, by rw [List.dropWhile_cons, hd]; rfl⟩
    rw [List.forall_mem_cons] at inside
    rw [List.cons_append, splitName, if_pos start, List.takeWhile_append_of_pos inside.2, stop.1,
      List.append_nil, List.dropWhile_append_of_pos inside.2, stop.2]

lemma isNameChar_of_isSpace {c : Char} (h : isSpace c = true) : isNameChar c = false := by
  rw [isNameChar_eq_isIdentifierChar, Bool.eq_false_iff]
  exact fun hc => Bool.false_ne_true
    ((Source.not_isBlank_of_isIdentifierChar hc).symm.trans (isBlank_of_isSpace h))

section

variable {indent name gap : List Char} (hi : indent.all isSpace = true)
  (hn : Source.isIdentifier name = true) (hg : gap.all isSpace = true)
include hi hn hg

lemma splitName_front (s : List Char) :
    splitName ((indent ++ name ++ gap ++ '(' :: s).dropWhile isSpace) =
      some (name, gap ++ '(' :: s) := by
  have bare : (name ++ (gap ++ '(' :: s)).dropWhile isSpace = name ++ (gap ++ '(' :: s) := by
    obtain ⟨c, t, rfl⟩ := List.exists_cons_of_ne_nil
      (Text.isWord_iff.1 (Source.isWord_of_isIdentifier hn)).1
    have hc : isSpace c = false := by
      rw [Bool.eq_false_iff]
      intro hc
      have := Source.isIdentifierChar_of_mem hn List.mem_cons_self
      rw [← isNameChar_eq_isIdentifierChar, isNameChar_of_isSpace hc] at this
      exact Bool.false_ne_true this
    rw [List.cons_append, List.dropWhile_cons, hc]
    rfl
  rw [List.append_assoc, List.append_assoc, List.dropWhile_append_of_pos (List.all_eq_true.1 hi),
    bare]
  refine splitName_append hn fun c hc => ?_
  cases gap with
  | nil =>
    obtain rfl := Option.some.inj hc
    rfl
  | cons d gap =>
    obtain rfl := Option.some.inj hc
    exact isNameChar_of_isSpace (List.all_eq_true.1 hg d List.mem_cons_self)

lemma uncommented_front : Source.Uncommented (indent ++ name ++ gap) := by
  refine .of_not_mem fun hm => ?_
  simp only [List.mem_append] at hm
  rcases hm with (hm | hm) | hm
  · exact absurd (List.all_eq_true.1 hi _ hm) (by decide)
  · exact Source.not_mem_of_isIdentifier hn (by decide) hm
  · exact absurd (List.all_eq_true.1 hg _ hm) (by decide)

end

lemma splitName_line (l : Line) (s : List Char) :
    splitName ((l.indent ++ l.name ++ l.gap ++ '(' :: s).dropWhile isSpace) =
      some (l.name, l.gap ++ '(' :: s) :=
  splitName_front l.isSpace_indent l.isIdentifier_name l.isSpace_gap s

lemma uncommented_blanks_append {gap : List Char} (h : Text.allBlank gap = true) {s : List Char}
    (hs : Source.Uncommented s) : Source.Uncommented (gap ++ s) := by
  induction gap with
  | nil => exact hs
  | cons c gap ih =>
    rw [Text.allBlank, List.all_cons, Bool.and_eq_true] at h
    have hc : c ≠ '/' := Text.ne_of_isBlank h.1 rfl
    exact Source.Uncommented.cons_iff.2
      ⟨fun _ hd => absurd hd hc, fun _ hd => absurd hd hc, ih h.2⟩

lemma uncommented_of_allBlank {gap : List Char} (h : Text.allBlank gap = true) :
    Source.Uncommented gap :=
  .of_not_mem (Text.not_mem_of_allBlank h rfl)

lemma uncommented_chars (a : Slot) : Source.Uncommented a.chars := by
  rw [Slot.chars, List.append_assoc]
  refine uncommented_blanks_append a.allBlank_before ?_
  have blank := a.allBlank_after
  cases hn : a.after with
  | nil =>
    rw [List.append_nil]
    exact a.isArgument.uncommented
  | cons c gap =>
    rw [hn, Text.allBlank, List.all_cons, Bool.and_eq_true] at blank
    rw [Source.Uncommented.append_cons_iff (Text.ne_of_isBlank blank.1 rfl)
      (Text.ne_of_isBlank blank.1 rfl)]
    exact ⟨a.isArgument.uncommented, uncommented_of_allBlank blank.2⟩

lemma uncommented_slots (slots : List Slot) :
    Source.Uncommented ([','].intercalate (slots.map Slot.chars)) := by
  induction slots with
  | nil => exact .nil
  | cons a slots ih =>
    cases slots with
    | nil =>
      rw [List.map_singleton, List.intercalate_singleton]
      exact uncommented_chars a
    | cons b slots =>
      rw [List.map_cons, List.map_cons, List.intercalate_cons_cons, List.append_assoc,
        List.singleton_append, Source.Uncommented.append_cons_iff (by decide) (by decide)]
      exact ⟨uncommented_chars a, ih⟩

lemma uncommented_list (l : Line) : Source.Uncommented l.list := by
  rw [Line.list]
  cases l.slots with
  | nil => exact uncommented_of_allBlank l.allBlank_blank
  | cons a slots => exact uncommented_slots (a :: slots)

lemma stripLineComments_line (l : Line) :
    Source.stripLineComments l.chars =
      l.indent ++ l.name ++ l.gap ++ '(' :: (l.list ++ ')' :: Source.stripLineComments l.rest) := by
  have front := uncommented_front l.isSpace_indent l.isIdentifier_name l.isSpace_gap
  rw [Line.chars, Source.stripLineComments_append_cons (by decide) (by decide) front,
    Source.stripLineComments_append_cons (by decide) (by decide) (uncommented_list l)]

/--
A line that is written as a call is read as this call, with one argument for each text between the
commas outside of brackets: its core, which nothing is around.
-/
theorem parse_line (l : Line) :
    parse (.ofList l.chars) =
      .ok (some ⟨.ofList l.name, l.slots.map fun a => Arg.parse (.ofList (core a.text))⟩) ∧
    ∀ text c, CoreOf text c ↔ c = core text := by
  refine ⟨?_, fun _ _ => coreOf_iff⟩
  have opened (s : List Char) : (l.gap ++ '(' :: s).dropWhile isSpace = '(' :: s :=
    List.dropWhile_append_of_pos (List.all_eq_true.1 l.isSpace_gap)
  have read := readArgs_list (.ofList l.name) l (Source.stripLineComments l.rest)
  rw [parse, String.toList_ofList, stripLineComments_line, parseCode, splitName_line]
  dsimp only
  rw [opened]
  change (readArgs _ _ >>= fun args => _) = _
  rw [read]
  simp only [Arg.parse, String.toList_ofList]
  rfl

theorem parse_line_vertices :
    let line : Line := {
      indent := "\t ".toList
      name := "gsSP_Vertex2".toList
      gap := [' ']
      blank := []
      slots := [{ before := [], text := "tree_vtx + (2)".toList, after := [] },
        { before := ['\n'], text := "((( -3) ))".toList, after := [' '] },
        { before := [' '], text := "(a) + (b)".toList, after := [] },
        { before := [], text := "\x7b1, F(2, 3)\x7d".toList, after := [] },
        { before := [' '], text := ['/'], after := [] }]
      rest := "; // (".toList }
    parse (.ofList line.chars) = .ok (some ⟨"gsSP_Vertex2",
      [.symbol "tree_vtx + (2)", .int (-3), .symbol "(a) + (b)", .symbol "\x7b1, F(2, 3)\x7d",
        .symbol "/"]⟩) := by
  intro line
  exact (parse_line line).1.trans (by decide +kernel)

end SceneDraw.Call
