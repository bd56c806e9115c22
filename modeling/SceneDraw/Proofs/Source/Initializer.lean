import SceneDraw.Proofs.Call.Parentheses
import SceneDraw.Proofs.Number.Numeral
import SceneDraw.Proofs.Source.Declaration
import SceneDraw.Proofs.Source.LineFeed
import SceneDraw.Source.Initializer

/-! Initializers that are nested to any depth: the values in them from left to right, and the texts
whose brackets do not match. -/

namespace SceneDraw.Source

open Call (isOpener isCloser nesting Nested)

def isMark (c : Char) : Bool := isOpener c || isCloser c || c == ','

structure Leaf where
  text : List Char
  nonblank : Text.allBlank text = false := by decide
  unmarked : text.all (!isMark ·) = true := by decide

/-- What stands around the items of a group. With a name, the group is a macro call. -/
structure Frame where
  before : List Char := []
  name : Option (List Char) := none
  gap : List Char := []
  after : List Char := []
  allBlank_before : Text.allBlank before = true := by decide
  isIdentifier_name : name.all isIdentifier = true := by decide
  allBlank_gap : Text.allBlank gap = true := by decide
  allBlank_after : Text.allBlank after = true := by decide

namespace Frame

def opener (f : Frame) : Char := if f.name.isSome then '(' else '\x7b'

def closer (f : Frame) : Char := if f.name.isSome then ')' else '\x7d'

def head (f : Frame) : List Char := f.before ++ f.name.getD [] ++ f.gap

end Frame

structure Ending where
  comma : Bool := false
  blank : List Char := []
  allBlank_blank : Text.allBlank blank = true := by decide

def Ending.chars (e : Ending) : List Char := (if e.comma then [','] else []) ++ e.blank

inductive Initializer
  | value (leaf : Leaf)
  | group (frame : Frame) (items : List Initializer) (ending : Ending)

namespace Initializer

def chars : Initializer → List Char
  | value leaf => leaf.text
  | group frame items ending =>
    frame.head ++ frame.opener :: ([','].intercalate (texts items) ++ ending.chars ++
      frame.closer :: frame.after)
where
  texts : List Initializer → List (List Char)
    | [] => []
    | i :: rest => i.chars :: texts rest

def leaves : Initializer → List Leaf
  | value leaf => [leaf]
  | group _ items _ => below items
where
  below : List Initializer → List Leaf
    | [] => []
    | i :: rest => i.leaves ++ below rest

lemma texts_eq_map (items : List Initializer) : chars.texts items = items.map chars := by
  induction items with
  | nil => rfl
  | cons i rest ih => rw [chars.texts, ih, List.map_cons]

lemma below_eq_flatMap (items : List Initializer) : leaves.below items = items.flatMap leaves := by
  induction items with
  | nil => rfl
  | cons i rest ih => rw [leaves.below, ih, List.flatMap_cons]

@[induction_eliminator]
theorem induct {motive : Initializer → Prop} (value : ∀ leaf, motive (value leaf))
    (group : ∀ frame items ending, (∀ i ∈ items, motive i) → motive (group frame items ending))
    (i : Initializer) : motive i :=
  @rec motive (fun items => ∀ i ∈ items, motive i) value group
    (fun _ h => absurd h List.not_mem_nil)
    (fun _ _ head tail => List.forall_mem_cons.2 ⟨head, tail⟩) i

end Initializer

structure Body where
  items : List Initializer
  ending : Ending := {}

namespace Body

def chars (b : Body) : List Char :=
  [','].intercalate (b.items.map Initializer.chars) ++ b.ending.chars

def leaves (b : Body) : List Leaf := b.items.flatMap Initializer.leaves

end Body

def Leaf.arg (l : Leaf) : Arg := .parse (.ofList l.text)

variable {depth : Nat} {pending s : List Char}

lemma pendingValue_blanks {gap : List Char} (h : Text.allBlank gap = true) :
    pendingValue (gap.reverse ++ pending) = pendingValue pending := by
  have blank : Text.allBlank (gap.reverse ++ pending) = Text.allBlank pending := by
    rw [Text.allBlank, List.all_append, List.all_reverse, show gap.all Text.isBlank = true from h,
      Bool.true_and, Text.allBlank]
  have value : Arg.ofChars (gap.reverse ++ pending).reverse = .ofChars pending.reverse := by
    rw [Arg.ofChars, List.reverse_append, List.reverse_reverse,
      Text.trim_append_blanks (List.all_eq_true.1 h), Arg.ofChars]
  rw [pendingValue, blank, value, pendingValue]

lemma pendingValue_reverse (text : List Char) :
    pendingValue text.reverse = if Text.allBlank text then [] else [.ofChars text] := by
  rw [pendingValue, Text.allBlank, List.all_reverse, List.reverse_reverse, Text.allBlank]

lemma pendingValue_leaf (l : Leaf) : pendingValue l.text.reverse = [l.arg] := by
  rw [pendingValue_reverse, l.nonblank, Leaf.arg, Arg.parse, String.toList_ofList]
  rfl

lemma isMark_of_isBlank {c : Char} (h : Text.isBlank c = true) : isMark c = false := by
  have apart (d : Char) (hd : Text.isBlank d = false) : (c == d) = false :=
    beq_eq_false_iff_ne.2 (Text.ne_of_isBlank h hd)
  simp only [isMark, isOpener, isCloser, apart '(' rfl, apart '\x7b' rfl, apart ')' rfl,
    apart '\x7d' rfl, apart ',' rfl, Bool.or_false]

lemma isMark_of_isIdentifierChar {c : Char} (h : isIdentifierChar c = true) : isMark c = false := by
  rw [Bool.eq_false_iff]
  intro hm
  simp only [isMark, isOpener, isCloser, Bool.or_eq_true, beq_iff_eq] at hm
  rcases hm with ((rfl | rfl) | rfl | rfl) | rfl <;> cases h

lemma unmarked_of_allBlank {gap : List Char} (h : Text.allBlank gap = true) :
    ∀ c ∈ gap, isMark c = false :=
  fun c hc => isMark_of_isBlank (List.all_eq_true.1 h c hc)

lemma Frame.unmarked_head (f : Frame) : ∀ c ∈ f.head, isMark c = false := by
  intro c hc
  rw [head, List.mem_append, List.mem_append] at hc
  rcases hc with (hc | hc) | hc
  · exact unmarked_of_allBlank f.allBlank_before c hc
  · have identifier := f.isIdentifier_name
    cases hn : f.name with
    | none =>
      rw [hn] at hc
      exact absurd hc List.not_mem_nil
    | some name =>
      rw [hn] at hc identifier
      exact isMark_of_isIdentifierChar (isIdentifierChar_of_mem identifier hc)
  · exact unmarked_of_allBlank f.allBlank_gap c hc

lemma flattenFrom_cons (c : Char) :
    flattenFrom depth pending (c :: s) =
      if c = '(' ∨ c = '\x7b' then flattenFrom (depth + 1) [] s
      else if c = ',' then (flattenFrom depth [] s).map (pendingValue pending ++ ·)
      else if c = ')' ∨ c = '\x7d' then
        match depth with
        | 0 => none
        | depth + 1 => (flattenFrom depth [] s).map (pendingValue pending ++ ·)
      else flattenFrom depth (c :: pending) s := by
  cases depth <;> rw [flattenFrom]

lemma flattenFrom_opener {c : Char} (h : isOpener c = true) :
    flattenFrom depth pending (c :: s) = flattenFrom (depth + 1) [] s := by
  simp only [isOpener, Bool.or_eq_true, beq_iff_eq] at h
  rw [flattenFrom_cons, if_pos h]

lemma flattenFrom_comma : flattenFrom depth pending (',' :: s) =
    (flattenFrom depth [] s).map (pendingValue pending ++ ·) := by
  rw [flattenFrom_cons, if_neg (by decide), if_pos rfl]

lemma flattenFrom_closer_zero {c : Char} (h : isCloser c = true) :
    flattenFrom 0 pending (c :: s) = none := by
  simp only [isCloser, Bool.or_eq_true, beq_iff_eq] at h
  rcases h with rfl | rfl <;> rfl

lemma flattenFrom_closer {c : Char} (h : isCloser c = true) :
    flattenFrom (depth + 1) pending (c :: s) =
      (flattenFrom depth [] s).map (pendingValue pending ++ ·) := by
  simp only [isCloser, Bool.or_eq_true, beq_iff_eq] at h
  rcases h with rfl | rfl <;> rfl

lemma flattenFrom_unmarked {text : List Char} (h : ∀ c ∈ text, isMark c = false) :
    flattenFrom depth pending (text ++ s) = flattenFrom depth (text.reverse ++ pending) s := by
  induction text generalizing pending with
  | nil => rfl
  | cons c text ih =>
    rw [List.forall_mem_cons] at h
    obtain ⟨hc, ht⟩ := h
    simp only [isMark, isOpener, isCloser, Bool.or_eq_false_iff, beq_eq_false_iff_ne] at hc
    obtain ⟨⟨⟨h₁, h₂⟩, h₃, h₄⟩, h₅⟩ := hc
    rw [List.cons_append, flattenFrom_cons, if_neg (not_or.2 ⟨h₁, h₂⟩), if_neg h₅,
      if_neg (not_or.2 ⟨h₃, h₄⟩), ih ht, List.reverse_cons, List.append_assoc,
      List.singleton_append]

def Stops (s : List Char) : Prop :=
  ∃ gap rest, s = gap ++ rest ∧ Text.allBlank gap = true ∧
    ∀ c ∈ rest.head?, isCloser c = true ∨ c = ','

namespace Stops

lemma nil : Stops [] := ⟨[], [], rfl, rfl, fun _ h => by cases h⟩

lemma comma (s : List Char) : Stops (',' :: s) :=
  ⟨[], _, rfl, rfl, fun _ h => .inr (Option.some.inj h).symm⟩

lemma closer {c : Char} (h : isCloser c = true) (s : List Char) : Stops (c :: s) :=
  ⟨[], _, rfl, rfl, fun _ hd => .inl (Option.some.inj hd ▸ h)⟩

lemma blanks {gap : List Char} (hg : Text.allBlank gap = true) (h : Stops s) :
    Stops (gap ++ s) := by
  obtain ⟨gap', rest, rfl, hg', hr⟩ := h
  refine ⟨gap ++ gap', rest, (List.append_assoc ..).symm, ?_, hr⟩
  rw [Text.allBlank, List.all_append]
  exact Bool.and_eq_true_iff.2 ⟨hg, hg'⟩

lemma ending (e : Ending) (h : Stops s) : Stops (e.chars ++ s) := by
  rw [Ending.chars]
  split_ifs
  · exact comma _
  · exact h.blanks e.allBlank_blank

lemma flattenFrom_eq (h : Stops s) :
    flattenFrom depth pending s = (flattenFrom depth [] s).map (pendingValue pending ++ ·) := by
  obtain ⟨gap, rest, rfl, hg, hr⟩ := h
  have bare : pendingValue (gap.reverse ++ []) = [] := pendingValue_blanks hg
  have unmarked := unmarked_of_allBlank hg
  rw [flattenFrom_unmarked unmarked, flattenFrom_unmarked unmarked]
  cases rest with
  | nil =>
    cases depth with
    | zero => rw [flattenFrom, flattenFrom, bare, pendingValue_blanks hg]; simp
    | succ depth => rfl
  | cons c rest =>
    rcases hr c rfl with hc | rfl
    · cases depth with
      | zero => rw [flattenFrom_closer_zero hc, flattenFrom_closer_zero hc]; rfl
      | succ depth =>
        rw [flattenFrom_closer hc, flattenFrom_closer hc, bare, pendingValue_blanks hg]
        simp
    · rw [flattenFrom_comma, flattenFrom_comma, bare, pendingValue_blanks hg]
      simp

lemma flattenFrom_blanks {gap : List Char} (h : Stops s) (hg : Text.allBlank gap = true) :
    flattenFrom depth [] (gap ++ s) = flattenFrom depth [] s := by
  rw [flattenFrom_unmarked (unmarked_of_allBlank hg), h.flattenFrom_eq, pendingValue_blanks hg]
  exact Option.map_id'

end Stops

def Initializer.values (i : Initializer) : List Arg := i.leaves.map Leaf.arg

def Initializer.Flattens (i : Initializer) : Prop :=
  ∀ (depth : Nat) (s : List Char), Stops s →
    flattenFrom depth [] (i.chars ++ s) = (flattenFrom depth [] s).map (i.values ++ ·)

lemma flattenFrom_items {items : List Initializer} (h : ∀ i ∈ items, i.Flattens)
    (hs : Stops s) :
    flattenFrom depth [] ([','].intercalate (items.map Initializer.chars) ++ s) =
      (flattenFrom depth [] s).map (items.flatMap Initializer.values ++ ·) := by
  induction items with
  | nil => exact Option.map_id'.symm
  | cons i rest ih =>
    rw [List.forall_mem_cons] at h
    cases rest with
    | nil =>
      rw [List.map_singleton, List.intercalate_singleton, h.1 depth s hs, List.flatMap_singleton]
    | cons j rest =>
      rw [List.map_cons, List.map_cons, List.intercalate_cons_cons, List.append_assoc,
        List.append_assoc, List.singleton_append, h.1 depth _ (.comma _), flattenFrom_comma,
        ← List.map_cons, ih h.2, List.flatMap_cons (x := i)]
      simp [pendingValue, Text.allBlank, Function.comp_def]

lemma flattenFrom_ending (e : Ending) (hs : Stops s) :
    flattenFrom depth [] (e.chars ++ s) = flattenFrom depth [] s := by
  rw [Ending.chars]
  split_ifs
  · rw [List.singleton_append, List.cons_append, flattenFrom_comma,
      hs.flattenFrom_blanks e.allBlank_blank]
    exact Option.map_id'
  · exact hs.flattenFrom_blanks e.allBlank_blank

lemma Frame.isOpener_opener (f : Frame) : isOpener f.opener = true := by
  rw [opener]
  split_ifs <;> rfl

lemma Frame.isCloser_closer (f : Frame) : isCloser f.closer = true := by
  rw [closer]
  split_ifs <;> rfl

lemma Initializer.values_group (frame : Frame) (items : List Initializer) (ending : Ending) :
    (group frame items ending).values = items.flatMap values := by
  rw [values, leaves, below_eq_flatMap, List.map_flatMap]
  rfl

lemma Initializer.flattens (i : Initializer) : i.Flattens := by
  induction i with
  | value leaf =>
    intro depth s hs
    have unmarked : ∀ c ∈ leaf.text, isMark c = false := by
      simpa only [List.all_eq_true, Bool.not_eq_true'] using leaf.unmarked
    rw [chars, flattenFrom_unmarked unmarked, hs.flattenFrom_eq, List.append_nil,
      pendingValue_leaf]
    rfl
  | group frame items ending ih =>
    intro depth s hs
    have close := Stops.closer frame.isCloser_closer (frame.after ++ s)
    rw [chars, texts_eq_map, List.append_assoc, flattenFrom_unmarked frame.unmarked_head,
      List.cons_append, flattenFrom_opener frame.isOpener_opener, List.append_assoc,
      List.append_assoc, List.cons_append, flattenFrom_items ih (close.ending ending),
      flattenFrom_ending ending close, flattenFrom_closer frame.isCloser_closer,
      hs.flattenFrom_blanks frame.allBlank_after, values_group]
    simp [pendingValue, Text.allBlank]

lemma flattenFrom_body (b : Body) :
    flattenFrom 0 [] b.chars = some (b.leaves.map Leaf.arg) := by
  have ends : flattenFrom 0 [] (b.ending.chars ++ []) = flattenFrom 0 [] [] :=
    flattenFrom_ending b.ending Stops.nil
  rw [List.append_nil] at ends
  have stops := Stops.nil.ending b.ending
  rw [List.append_nil] at stops
  rw [Body.chars, flattenFrom_items (fun i _ => i.flattens) stops, ends, Body.leaves,
    List.map_flatMap]
  exact congrArg some (List.append_nil _)

lemma ofChars_eq_int_iff {text : List Char} {n : Int64} :
    Arg.ofChars text = .int n ↔ Arg.readInt? (Text.trim text) = some n := by
  rw [Arg.ofChars]
  split
  · next m hm => rw [hm, Arg.int.injEq, Option.some.injEq]
  · next hm =>
    rw [hm]
    split <;> simp

lemma ofChars_lineFeeds {text : List Char} {n : Int64} (h : Arg.ofChars text = .int n) :
    Arg.ofChars (lineFeeds text) = .int n ∧ Text.allBlank (lineFeeds text) = false := by
  obtain ⟨before, after, hb, ha, ht⟩ := Text.exists_eq_pad_trim text
  rw [ofChars_eq_int_iff] at h
  have word := Number.isWord_of_readInt? h
  obtain ⟨hne, nonblank⟩ := Text.isWord_iff.1 word
  have inside (c : Char) (hc : Text.isBlank c = true) : c ∉ Text.trim text := by
    intro hm
    rw [nonblank c hm] at hc
    cases hc
  have start : (Text.trim text ++ after).head? ≠ some '\n' := by
    rw [List.head?_append_of_ne_nil _ hne]
    exact fun hm => inside '\n' rfl (List.mem_of_head? hm)
  have feeds : lineFeeds text = lineFeeds before ++ Text.trim text ++ lineFeeds after := by
    conv_lhs => rw [ht]
    rw [List.append_assoc, lineFeeds_append start, lineFeeds_append_of_not_mem (inside '\r' rfl),
      List.append_assoc]
  have trim : Text.trim (lineFeeds text) = Text.trim text := by
    rw [feeds, Text.trim_pad (allBlank_lineFeeds hb) (allBlank_lineFeeds ha), Text.trim_trim]
  refine ⟨ofChars_eq_int_iff.2 (trim.symm ▸ h), ?_⟩
  rw [← Bool.not_eq_true, ← Text.trim_eq_nil_iff, trim]
  exact hne

lemma pendingValue_lineFeeds {text : List Char}
    (h : ∀ a ∈ pendingValue text.reverse, a.int?.isSome) :
    pendingValue (lineFeeds text).reverse = pendingValue text.reverse := by
  rw [pendingValue_reverse] at h ⊢
  rw [pendingValue_reverse]
  by_cases blank : Text.allBlank text = true
  · rw [if_pos blank, if_pos (allBlank_lineFeeds blank)]
  · rw [if_neg blank, List.forall_mem_singleton] at h
    obtain ⟨n, ha⟩ : ∃ n, Arg.ofChars text = .int n := by
      cases ha : Arg.ofChars text with
      | int n => exact ⟨n, rfl⟩
      | float x => rw [ha] at h; cases h
      | symbol t => rw [ha] at h; cases h
    obtain ⟨same, nonblank⟩ := ofChars_lineFeeds ha
    rw [if_neg blank, if_neg (by rw [nonblank]; decide), same, ha]

lemma flattenFrom_mark {c : Char} (hc : isMark c = true) :
    flattenFrom depth pending (c :: s) =
      if isOpener c then flattenFrom (depth + 1) [] s
      else if isCloser c ∧ depth = 0 then none
      else (flattenFrom (if isCloser c then depth - 1 else depth) [] s).map
        (pendingValue pending ++ ·) := by
  simp only [isMark, Bool.or_eq_true, beq_iff_eq] at hc
  by_cases ho : isOpener c = true
  · rw [if_pos ho, flattenFrom_opener ho]
  · rw [if_neg ho]
    by_cases hcl : isCloser c = true
    · cases depth with
      | zero => rw [flattenFrom_closer_zero hcl, if_pos ⟨hcl, rfl⟩]
      | succ depth => rw [flattenFrom_closer hcl, if_neg (by simp), if_pos hcl, Nat.add_sub_cancel]
    · obtain rfl := (hc.resolve_left (not_or.2 ⟨ho, hcl⟩))
      rw [flattenFrom_comma, if_neg (fun h => hcl h.1), if_neg hcl]

lemma exists_unmarked_append (s : List Char) :
    ∃ text rest, s = text ++ rest ∧ (∀ c ∈ text, isMark c = false) ∧
      ∀ c ∈ rest.head?, isMark c = true := by
  refine ⟨s.takeWhile (!isMark ·), s.dropWhile (!isMark ·), List.takeWhile_append_dropWhile.symm,
    fun c hc => by simpa using List.mem_takeWhile_imp hc, fun c hc => ?_⟩
  have := List.head?_dropWhile_not (!isMark ·) s
  rw [Option.mem_def.1 hc] at this
  simpa using this

lemma flattenFrom_lineFeeds (depth : Nat) (s : List Char) {args : List Arg}
    (h : flattenFrom depth [] s = some args) (hint : ∀ a ∈ args, a.int?.isSome) :
    flattenFrom depth [] (lineFeeds s) = some args := by
  -- The induction goes from one mark to the next: a value is read from all that is between them.
  obtain ⟨text, rest, hs, unmarked, marked⟩ := exists_unmarked_append s
  have unmarked' : ∀ c ∈ lineFeeds text, isMark c = false :=
    fun c hc => unmarked c ((lineFeeds_sublist text).mem hc)
  rw [hs, flattenFrom_unmarked unmarked, List.append_nil] at h
  cases rest with
  | nil =>
    rw [hs, List.append_nil, ← List.append_nil (lineFeeds text), flattenFrom_unmarked unmarked',
      List.append_nil]
    cases depth with
    | zero =>
      obtain rfl := Option.some.inj h
      rw [flattenFrom, pendingValue_lineFeeds hint]
    | succ depth => cases h
  | cons c rest =>
    have mark : isMark c = true := marked c rfl
    have feed : c ≠ '\n' ∧ c ≠ '\r' := by
      constructor <;> rintro rfl <;> cases mark
    have feeds : lineFeeds (text ++ c :: rest) = lineFeeds text ++ c :: lineFeeds rest := by
      rw [lineFeeds_append (by simpa using feed.1), lineFeeds_cons fun _ hc => absurd hc feed.2]
    rw [hs, feeds, flattenFrom_unmarked unmarked', List.append_nil, flattenFrom_mark mark]
    rw [flattenFrom_mark mark] at h
    have shorter : rest.length < s.length := by
      rw [hs, List.length_append, List.length_cons]
      omega
    split_ifs at h ⊢
    · exact flattenFrom_lineFeeds _ rest h hint
    all_goals
      obtain ⟨more, hmore, rfl⟩ := Option.map_eq_some_iff.1 h
      rw [List.forall_mem_append] at hint
      rw [flattenFrom_lineFeeds _ rest hmore hint.2, pendingValue_lineFeeds hint.1, Option.map_some]
termination_by s.length

lemma flattenFrom_isSome_iff (depth : Nat) (pending s : List Char) :
    (flattenFrom depth pending s).isSome ↔
      Nested isOpener isCloser depth s ∧ depth + nesting isOpener isCloser s = 0 := by
  fun_induction flattenFrom depth pending s with
  | case1 pending => simp [Call.nested_nil_iff, nesting]
  | case2 depth pending =>
    refine iff_of_false Bool.false_ne_true fun h => ?_
    have : nesting isOpener isCloser [] = 0 := rfl
    omega
  | case3 depth pending c s h ih =>
    have opener : isOpener c = true := by simpa [isOpener] using h
    exact ih.trans (Call.nested_closing_cons_iff (by rw [Call.nesting_opener opener]; rfl)).symm
  | case4 depth pending s h ih =>
    rw [Option.isSome_map]
    exact ih.trans (Call.nested_closing_cons_iff (by simp [nesting, isOpener, isCloser])).symm
  | case5 pending c s h₁ h₂ h =>
    have closer : isCloser c = true := by simpa [isCloser] using h
    refine iff_of_false Bool.false_ne_true fun h => ?_
    have := ((Call.nested_closing_cons_iff rfl).1 h).1.nonneg
    rw [Call.nesting_closer closer] at this
    omega
  | case6 pending c s h₁ h₂ h depth ih =>
    have closer : isCloser c = true := by simpa [isCloser] using h
    have inner : ((depth + 1 : Nat) : Int) + nesting isOpener isCloser [c] = depth := by
      rw [Call.nesting_closer closer]
      omega
    rw [Option.isSome_map]
    exact ih.trans (Call.nested_closing_cons_iff inner).symm
  | case7 depth pending c s h₁ h₂ h₃ ih =>
    have other : nesting isOpener isCloser [c] = 0 := by
      rw [not_or] at h₁ h₃
      apply Call.nesting_other <;> simp [isOpener, isCloser, h₁, h₃]
    exact ih.trans (Call.nested_closing_cons_iff (by rw [other, Int.add_zero])).symm

lemma flatten_eq_error_iff {s : List Char} {e : ParseError} :
    flatten s = .error e ↔ e = .unbalanced ∧ flattenFrom 0 [] s = none := by
  rw [flatten]
  cases flattenFrom 0 [] s with
  | none => simp [eq_comm]
  | some values => simp

/-- Some prefix closes more brackets than it opens, or the text does not close all of them. -/
def Unbalanced (s : List Char) : Prop :=
  (∃ p, p <+: s ∧ p.countP isOpener < p.countP isCloser) ∨ s.countP isCloser < s.countP isOpener

lemma flattenFrom_eq_none_iff (s : List Char) : flattenFrom 0 [] s = none ↔ Unbalanced s := by
  rw [← Option.not_isSome_iff_eq_none, flattenFrom_isSome_iff, Int.natCast_zero, Int.zero_add]
  constructor
  · intro h
    by_cases hp : ∃ p, p <+: s ∧ p.countP isOpener < p.countP isCloser
    · exact .inl hp
    · refine .inr (Nat.lt_of_not_le fun hs => h ⟨fun p hps => ?_, ?_⟩)
      · have := Nat.le_of_not_lt fun hlt => hp ⟨p, hps, hlt⟩
        rw [nesting]
        omega
      · have := Nat.le_of_not_lt fun hlt => hp ⟨s, List.prefix_rfl, hlt⟩
        rw [nesting]
        omega
  · rintro (⟨p, hps, hlt⟩ | hlt) ⟨nested, closed⟩
    · have := nested p hps
      rw [nesting] at this
      omega
    · rw [nesting] at closed
      omega

theorem flatten_chars :
    (∀ b : Body, flatten b.chars = .ok (b.leaves.map fun leaf => Arg.parse (.ofList leaf.text))) ∧
      (∀ i : Initializer,
        flatten i.chars = .ok (i.leaves.map fun leaf => Arg.parse (.ofList leaf.text))) ∧
      ∀ s e, flatten s = .error e ↔ e = .unbalanced ∧ Unbalanced s := by
  have body (b : Body) : flatten b.chars = .ok (b.leaves.map Leaf.arg) := by
    rw [flatten, flattenFrom_body]
  refine ⟨body, fun i => ?_, fun s e => ?_⟩
  · have alone : (Body.mk [i] {}).chars = i.chars := by simp [Body.chars, Ending.chars]
    have leaves : (Body.mk [i] {}).leaves = i.leaves := List.flatMap_singleton ..
    rw [← alone, ← leaves]
    exact body _
  · rw [flatten_eq_error_iff, flattenFrom_eq_none_iff]

end SceneDraw.Source
