import SceneDraw.Proofs.Call.Positions
import SceneDraw.Proofs.DisplayList.Constants
import SceneDraw.Proofs.Number.Literal

namespace SceneDraw.DisplayList

def Spaced : List (List Char) → List Char → Prop
  | [], text => Text.allBlank text = true
  | part :: parts, text => ∃ gap rest, Text.allBlank gap = true ∧ Spaced parts rest ∧
      text = gap ++ part ++ rest

structure Index where
  numeral : Number.Numeral
  unsigned : numeral.sign = .bare := by decide
  below : numeral.magnitude < 2 ^ 32 := by decide

def Index.value (k : Index) : UInt32 := .ofNat k.numeral.magnitude

inductive Reference
  | bare
  | sum (k : Index)
  | element (k : Index)

namespace Reference

def parts (name : List Char) : Reference → List (List Char)
  | bare => [name]
  | sum k => [name, ['+'], k.numeral.chars]
  | element k => [['&'], name, ['['], k.numeral.chars, [']']]

def offset : Reference → UInt32
  | bare => 0
  | sum k | element k => k.value

end Reference

/--
What a line of a vertex load begins with, up to the first comma. Before and after the name of the
call, blanks are ASCII ones.
-/
structure LoadLine where
  indent : List Char
  gap : List Char
  name : List Char
  reference : Reference
  argument : List Char
  isSpace_indent : indent.all Call.isSpace = true := by decide
  isSpace_gap : gap.all Call.isSpace = true := by decide
  isIdentifier_name : Source.isIdentifier name = true := by decide
  spaced : Spaced (reference.parts name) argument

def LoadLine.text (l : LoadLine) (others : List Char) : String :=
  .ofList (l.indent ++ "gsSPVertex".toList ++ l.gap ++ '(' :: (l.argument ++ ',' :: others))

lemma Spaced.blank_or_mem {parts : List (List Char)} {text : List Char} {c : Char}
    (h : Spaced parts text) (hc : c ∈ text) :
    Text.isBlank c = true ∨ ∃ part ∈ parts, c ∈ part := by
  induction parts generalizing text with
  | nil => exact .inl (List.all_eq_true.1 h c hc)
  | cons part parts ih =>
    obtain ⟨gap, rest, hgap, hrest, rfl⟩ := h
    rw [List.mem_append, List.mem_append] at hc
    obtain (hc | hc) | hc := hc
    · exact .inl (List.all_eq_true.1 hgap c hc)
    · exact .inr ⟨part, List.mem_cons_self, hc⟩
    · exact (ih hrest hc).imp id fun ⟨p, hp, hc⟩ => ⟨p, List.mem_cons_of_mem part hp, hc⟩

lemma startsNumber_of_isIdentifier {c : Char} {s : List Char}
    (h : Source.isIdentifier (c :: s) = true) : Number.startsNumber c = false := by
  have inside := Source.isIdentifierChar_of_mem h List.mem_cons_self
  rw [Source.isIdentifier, Bool.and_eq_true, Bool.not_eq_true'] at h
  have digit : Number.isDecDigit c = false := by
    have range : ¬('0' ≤ c ∧ c ≤ '9') := by simpa using h.1
    rw [Number.isDecDigit, Number.decDigit?, if_neg range]
    rfl
  have mark : "+-.".toList.contains c = false := by
    rw [Bool.eq_false_iff]
    intro hm
    have all : "+-.".toList.all (!Source.isIdentifierChar ·) = true := by decide
    have outside := List.all_eq_true.1 all c (List.contains_iff_mem.1 hm)
    rw [inside] at outside
    exact Bool.false_ne_true outside
  rw [Number.startsNumber, digit, mark]
  rfl

lemma ofChars_of_isIdentifier {text : List Char} (h : Source.isIdentifier (Text.trim text) = true) :
    Arg.ofChars text = .symbol (.ofList (Text.trim text)) := by
  cases ht : Text.trim text with
  | nil => cases ht ▸ h
  | cons c s => exact Number.ofChars_eq_symbol (startsNumber_of_isIdentifier (ht ▸ h)) ht

namespace Index

variable (k : Index)

lemma ofChars_pad {before after : List Char} (hb : Text.allBlank before = true)
    (ha : Text.allBlank after = true) :
    Arg.ofChars (before ++ k.numeral.chars ++ after) = .int (.ofInt k.numeral.magnitude) := by
  have value : k.numeral.value = k.numeral.magnitude := by
    rw [Number.Numeral.value, k.unsigned]
    rfl
  rw [← value]
  refine k.numeral.ofChars_of_trim ?_ (k.below.trans (by decide))
  rw [Text.trim_pad hb ha, Text.trim_of_isWord k.numeral.isWord_chars]

lemma isIdentifierChar_of_mem {c : Char} (h : c ∈ k.numeral.chars) :
    Source.isIdentifierChar c = true := by
  have digits : ∀ c ∈ k.numeral.digits.map Number.Digit.char, Source.isIdentifierChar c = true := by
    have all : ∀ (value : Fin 16) (capital : Bool),
        Source.isIdentifierChar (Number.hexChar capital value) = true := by decide
    exact List.forall_mem_map.2 fun d _ => all d.value d.capital
  have mark : ∀ c ∈ k.numeral.radix.mark, Source.isIdentifierChar c = true := by
    cases k.numeral.radix with
    | decimal => exact List.forall_mem_nil _
    | hexadecimal capital =>
      cases capital <;> exact List.forall_mem_cons.2 ⟨rfl, List.forall_mem_singleton.2 rfl⟩
  rw [Number.Numeral.chars, k.unsigned, Number.Sign.chars, List.nil_append] at h
  exact (List.mem_append.1 h).elim (mark c) (digits c)

lemma not_mem_chars {c : Char} (h : Source.isIdentifierChar c = false) : c ∉ k.numeral.chars :=
  fun hc => Bool.false_ne_true (h.symm.trans (k.isIdentifierChar_of_mem hc))

lemma toInt_magnitude : (Int64.ofInt k.numeral.magnitude).toInt = k.numeral.magnitude := by
  have := k.below
  exact Int64.toInt_ofInt_of_le (by omega) (by omega)

lemma within : 0 ≤ Int64.ofInt k.numeral.magnitude ∧
    Int64.ofInt k.numeral.magnitude < 0x100000000 := by
  have := k.below
  rw [Int64.le_iff_toInt_le, Int64.lt_iff_toInt_lt, k.toInt_magnitude]
  exact ⟨Int.natCast_nonneg _, Int.ofNat_lt.2 this⟩

lemma toUInt32_magnitude : (Int64.ofInt k.numeral.magnitude).toUInt64.toUInt32 = k.value := by
  have exact := toNat_toUInt64 k.within.1
  rw [k.toInt_magnitude, Int.ofNat_inj] at exact
  rw [← UInt32.toNat_inj, UInt64.toNat_toUInt32, exact, Index.value, UInt32.toNat_ofNat']

end Index

def isReferenceChar (c : Char) : Bool :=
  Text.isBlank c || Source.isIdentifierChar c || "+&[]".toList.contains c

def referenceParts? (s : List Char) : Option (List Char × Arg) :=
  match Text.cut '+' s with
  | some (name, offset) => some (name, .ofChars offset)
  | none =>
    match Text.cut '[' s with
    | some (name, rest) => (Text.beforeSuffix? [']'] rest).map fun k => (name, .ofChars k)
    | none => some (s, .int 0)

def reference? (marked : List Char) (offset : Arg) : Option (String × UInt32) := do
  let n ← offset.int?
  let name := Text.trim ((Text.trim marked).dropWhile (· == '&'))
  if 0 ≤ n ∧ n < 0x100000000 ∧ name ≠ [] then some (.ofList name, n.toUInt64.toUInt32) else none

lemma vertexReference?_eq_bind (s : List Char) :
    vertexReference? s =
      (referenceParts? s).bind fun (marked, offset) => reference? marked offset := by
  rw [vertexReference?, referenceParts?]
  cases Text.cut '+' s with
  | some _ => rfl
  | none =>
    cases Text.cut '[' s with
    | some p => cases Text.beforeSuffix? [']'] p.2 <;> rfl
    | none => rfl

lemma dropWhile_marks {s : List Char} (h : '&' ∉ s) : s.dropWhile (· == '&') = s := by
  cases s with
  | nil => rfl
  | cons c s =>
    rw [List.mem_cons, not_or] at h
    exact List.dropWhile_cons_of_neg (by simpa using Ne.symm h.1)

section

variable {name : List Char} (hname : Source.isIdentifier name = true)
include hname

lemma exists_head : ∃ c s, name = c :: s ∧ Number.startsNumber c = false := by
  cases name with
  | nil => cases hname
  | cons c s => exact ⟨c, s, rfl, startsNumber_of_isIdentifier hname⟩

variable {n : Int64} (hn : 0 ≤ n ∧ n < 0x100000000)
include hn

lemma reference?_of_trim {marked : List Char}
    (hm : Text.trim ((Text.trim marked).dropWhile (· == '&')) = name) :
    reference? marked (.int n) = some (.ofList name, n.toUInt64.toUInt32) := by
  have nonempty := (Text.isWord_iff.1 (Source.isWord_of_isIdentifier hname)).1
  change ite _ _ _ = _
  rw [hm, if_pos ⟨hn.1, hn.2, nonempty⟩]

variable {gap after : List Char} (hg : Text.allBlank gap = true) (ha : Text.allBlank after = true)
include ha

lemma reference?_name :
    reference? (name ++ after) (.int n) = some (.ofList name, n.toUInt64.toUInt32) := by
  have word := Source.isWord_of_isIdentifier hname
  have trimmed : Text.trim (name ++ after) = name :=
    (Text.trim_append_blanks (List.all_eq_true.1 ha) name).trans (Text.trim_of_isWord word)
  refine reference?_of_trim hname hn ?_
  rw [trimmed, dropWhile_marks (Source.not_mem_of_isIdentifier hname rfl), Text.trim_of_isWord word]

include hg

lemma reference?_marked : reference? (['&'] ++ gap ++ name ++ after) (.int n) =
    some (.ofList name, n.toUInt64.toUInt32) := by
  have word := Source.isWord_of_isIdentifier hname
  have trimmed : Text.trim (['&'] ++ gap ++ name ++ after) = '&' :: (gap ++ name) :=
    (Text.trim_append_blanks (List.all_eq_true.1 ha) _).trans (Text.trim_between rfl word gap)
  have unmarked : '&' ∉ gap ++ name := fun hm => (List.mem_append.1 hm).elim
    (Text.not_mem_of_allBlank hg rfl) (Source.not_mem_of_isIdentifier hname rfl)
  refine reference?_of_trim hname hn ?_
  rw [trimmed, List.dropWhile_cons_of_pos rfl, dropWhile_marks unmarked,
    Text.trim_blanks_append (List.all_eq_true.1 hg), Text.trim_of_isWord word]

end

section

variable {name : List Char} (hname : Source.isIdentifier name = true) (k : Index)
  {g₁ g₂ g₃ g₄ : List Char} (h₁ : Text.allBlank g₁ = true) (h₂ : Text.allBlank g₂ = true)
  (h₃ : Text.allBlank g₃ = true) (h₄ : Text.allBlank g₄ = true)
include hname

lemma referenceParts?_name : referenceParts? name = some (name, .int 0) := by
  rw [referenceParts?, Text.cut_of_not_mem (Source.not_mem_of_isIdentifier hname rfl)]
  dsimp only
  rw [Text.cut_of_not_mem (Source.not_mem_of_isIdentifier hname rfl)]

include h₁ h₂

lemma referenceParts?_sum :
    referenceParts? (name ++ g₁ ++ '+' :: (g₂ ++ k.numeral.chars)) =
      some (name ++ g₁, .int (.ofInt k.numeral.magnitude)) := by
  have whole : '+' ∉ name ++ g₁ := fun hm => (List.mem_append.1 hm).elim
    (Source.not_mem_of_isIdentifier hname rfl) (Text.not_mem_of_allBlank h₁ rfl)
  have offset := k.ofChars_pad h₂ (rfl : Text.allBlank [] = true)
  rw [List.append_nil] at offset
  rw [referenceParts?, Text.cut_append_cons whole]
  dsimp only
  rw [offset]

include h₃ h₄

lemma referenceParts?_element :
    referenceParts?
        (['&'] ++ g₁ ++ name ++ g₂ ++ '[' :: (g₃ ++ k.numeral.chars ++ g₄ ++ [']'])) =
      some (['&'] ++ g₁ ++ name ++ g₂, .int (.ofInt k.numeral.magnitude)) := by
  have blanks {c : Char} (hc : Text.isBlank c = false) : c ∉ g₁ ∧ c ∉ g₂ ∧ c ∉ g₃ ∧ c ∉ g₄ :=
    ⟨Text.not_mem_of_allBlank h₁ hc, Text.not_mem_of_allBlank h₂ hc,
      Text.not_mem_of_allBlank h₃ hc, Text.not_mem_of_allBlank h₄ hc⟩
  have front {c : Char} (hb : Text.isBlank c = false) (hc : Source.isIdentifierChar c = false)
      (hm : c ≠ '&') : c ∉ ['&'] ++ g₁ ++ name ++ g₂ := by
    simp [hm, blanks hb, Source.not_mem_of_isIdentifier hname hc]
  -- No plus sign, not even in the offset, so it is the bracket that divides the text.
  have unsummed : '+' ∉ ['&'] ++ g₁ ++ name ++ g₂ ++
      '[' :: (g₃ ++ k.numeral.chars ++ g₄ ++ [']']) := by
    rw [List.mem_append, not_or]
    refine ⟨front rfl rfl (by decide), ?_⟩
    simp [blanks (c := '+') rfl, k.not_mem_chars (c := '+') rfl]
  have closed : Text.beforeSuffix? [']'] (g₃ ++ k.numeral.chars ++ g₄ ++ [']']) =
      some (g₃ ++ k.numeral.chars ++ g₄) := List.isSuffixOf?_eq_some_iff_append_eq.2 rfl
  rw [referenceParts?, Text.cut_of_not_mem unsummed]
  dsimp only
  rw [Text.cut_append_cons (front rfl rfl (by decide))]
  dsimp only
  rw [closed, Option.map_some, k.ofChars_pad h₃ h₄]

end

section

variable {name text : List Char} {r : Reference} (hname : Source.isIdentifier name = true)
  (h : Spaced (r.parts name) text)
include hname h

lemma isReferenceChar_of_mem {c : Char} (hc : c ∈ text) : isReferenceChar c = true := by
  have parts : ∀ part ∈ r.parts name, ∀ d ∈ part, isReferenceChar d = true := by
    have identifier {d : Char} (hd : Source.isIdentifierChar d = true) :
        isReferenceChar d = true := by
      simp [isReferenceChar, hd]
    have names : ∀ d ∈ name, isReferenceChar d = true :=
      fun d hd => identifier (Source.isIdentifierChar_of_mem hname hd)
    have indices (k : Index) : ∀ d ∈ k.numeral.chars, isReferenceChar d = true :=
      fun d hd => identifier (k.isIdentifierChar_of_mem hd)
    cases r <;> simp only [Reference.parts, List.forall_mem_cons, List.not_mem_nil, false_imp_iff,
      implies_true, and_true]
    exacts [names, ⟨names, rfl, indices _⟩, ⟨rfl, names, rfl, indices _, rfl⟩]
  obtain blank | ⟨part, hp, hc⟩ := h.blank_or_mem hc
  · simp [isReferenceChar, blank]
  · exact parts part hp c hc

lemma not_mem_spaced {c : Char} (hc : isReferenceChar c = false) : c ∉ text :=
  fun hm => Bool.false_ne_true (hc.symm.trans (isReferenceChar_of_mem hname h hm))

lemma vertexReference?_of_spaced :
    (∃ c s, Text.trim text = c :: s ∧ Number.startsNumber c = false) ∧
      vertexReference? (Text.trim text) = some (.ofList name, r.offset) := by
  have word := Source.isWord_of_isIdentifier hname
  obtain ⟨c, s, hc, hs⟩ := exists_head hname
  -- Blanks before the first part and behind the last one are trimmed off here; those between the
  -- parts go with the cuts.
  cases r with
  | bare =>
    obtain ⟨before, after, hb, ha, rfl⟩ := h
    have read := reference?_name hname (n := 0) (by decide) (rfl : Text.allBlank [] = true)
    rw [List.append_nil] at read
    rw [Text.trim_pad hb ha, Text.trim_of_isWord word]
    refine ⟨⟨c, s, hc, hs⟩, ?_⟩
    rw [vertexReference?_eq_bind, referenceParts?_name hname]
    exact read
  | sum k =>
    obtain ⟨before, _, hb, ⟨g₁, _, h₁, ⟨g₂, after, h₂, ha, rfl⟩, rfl⟩, rfl⟩ := h
    have trimmed : Text.trim (before ++ name ++ (g₁ ++ ['+'] ++ (g₂ ++ k.numeral.chars ++ after))) =
        name ++ g₁ ++ '+' :: (g₂ ++ k.numeral.chars) := by
      have := Text.trim_between word k.numeral.isWord_chars (g₁ ++ '+' :: g₂)
      rw [← Text.trim_pad hb ha] at this
      simpa using this
    rw [trimmed]
    refine ⟨⟨c, s ++ g₁ ++ '+' :: (g₂ ++ k.numeral.chars), by rw [hc]; rfl, hs⟩, ?_⟩
    rw [vertexReference?_eq_bind, referenceParts?_sum hname k h₁ h₂]
    exact (reference?_name hname k.within h₁).trans (by rw [k.toUInt32_magnitude]; rfl)
  | element k =>
    obtain ⟨before, _, hb, ⟨g₁, _, h₁, ⟨g₂, _, h₂, ⟨g₃, _, h₃, ⟨g₄, after, h₄, ha, rfl⟩, rfl⟩,
      rfl⟩, rfl⟩, rfl⟩ := h
    have trimmed : Text.trim (before ++ ['&'] ++ (g₁ ++ name ++
          (g₂ ++ ['['] ++ (g₃ ++ k.numeral.chars ++ (g₄ ++ [']'] ++ after))))) =
        ['&'] ++ g₁ ++ name ++ g₂ ++ '[' :: (g₃ ++ k.numeral.chars ++ g₄ ++ [']']) := by
      have := Text.trim_between (s := ['&']) (t := [']']) rfl rfl
        (g₁ ++ name ++ g₂ ++ '[' :: (g₃ ++ k.numeral.chars ++ g₄))
      rw [← Text.trim_pad hb ha] at this
      simpa using this
    rw [trimmed]
    refine ⟨⟨'&', _, rfl, rfl⟩, ?_⟩
    rw [vertexReference?_eq_bind, referenceParts?_element hname k h₁ h₂ h₃ h₄]
    exact (reference?_marked hname k.within h₁ h₂).trans (by rw [k.toUInt32_magnitude]; rfl)

lemma vertexReference_of_spaced :
    vertexReference (.ofChars (Call.core text)) = .ok (.ofList name, r.offset) := by
  obtain ⟨⟨c, s, hc, hs⟩, hv⟩ := vertexReference?_of_spaced hname h
  have unenclosed : '(' ∉ Text.trim text := fun hm =>
    not_mem_spaced hname h rfl ((Text.isInfix_trim text).mem hm)
  have core : Call.core text = Text.trim text := Call.stripParens_of_not_mem unenclosed
  have symbol := Number.ofChars_eq_symbol hs ((Text.trim_trim text).trans hc)
  rw [core, symbol, vertexReference, Arg.symbol?, Option.bind_some, String.toList_ofList, ← hc, hv]

end

def loadOf (buffer : String) (offset : UInt32) (others : List Arg) : Except ParseError Command := do
  let c : Call := ⟨"gsSPVertex", .symbol buffer :: others⟩
  c.expectArity 3
  return .load ⟨buffer, offset, ← word c 1, ← word c 2⟩

lemma ofCall_load {a : Arg} {buffer : String} {offset : UInt32}
    (h : vertexReference a = .ok (buffer, offset)) (others : List Arg) :
    ofCall ⟨"gsSPVertex", a :: others⟩ = loadOf buffer offset others := by
  change (Call.expectArity _ 3 >>= fun _ => vertexReference a >>= _) = _
  rw [h]
  rfl

namespace LoadLine

variable (l : LoadLine) (others : List Char)

lemma opens_text : Call.Opens (l.text others) "gsSPVertex".toList
    (l.argument ++ ',' :: Source.stripLineComments others) := by
  have name : Source.isIdentifier "gsSPVertex".toList = true := by decide
  have front := Call.uncommented_front l.isSpace_indent name l.isSpace_gap
  have argument : Source.Uncommented l.argument :=
    .of_not_mem (not_mem_spaced l.isIdentifier_name l.spaced rfl)
  refine ⟨l.indent, l.gap, l.isSpace_indent, name, l.isSpace_gap, ?_⟩
  rw [text, String.toList_ofList,
    Source.stripLineComments_append_cons (by decide) (by decide) front,
    Source.stripLineComments_append_cons (by decide) (by decide) argument]

lemma isPiece_argument : Call.IsPiece 0 l.argument := by
  have apart {c d : Char} (hc : c ∈ l.argument) (hd : isReferenceChar d = false) : c ≠ d := by
    rintro rfl
    exact not_mem_spaced l.isIdentifier_name l.spaced hd hc
  refine Call.isPiece_of_forall fun c hc => ⟨?_, apart hc rfl, apart hc rfl⟩
  simp [Call.isOpener, apart hc (d := '(') rfl, apart hc (d := '\x7b') rfl]

lemma nonblank_argument : Text.allBlank l.argument = false := by
  obtain ⟨⟨c, s, hc, -⟩, -⟩ := vertexReference?_of_spaced l.isIdentifier_name l.spaced
  rw [Bool.eq_false_iff, ne_eq, ← Text.trim_eq_nil_iff, hc]
  exact List.cons_ne_nil c s

lemma decodeLine_text :
    decodeLine (l.text others) = (do
      let args ← Call.readOthers "gsSPVertex" (Source.stripLineComments others)
      return some (← loadOf (.ofList l.name) l.reference.offset args)) := by
  have load := ofCall_load (vertexReference_of_spaced l.isIdentifier_name l.spaced)
  rw [decodeLine, Call.parse_of_opens (l.opens_text others),
    Call.readArgs_piece l.isPiece_argument l.nonblank_argument, String.ofList_toList]
  cases Call.readOthers "gsSPVertex" (Source.stripLineComments others) with
  | error e => rfl
  | ok args =>
    change (ofCall _ >>= _) = _
    rw [load]
    rfl

end LoadLine

lemma readArg_of_spaced {name : String} {text piece : List Char} (h : Spaced [text] piece) :
    Call.readArg name piece = Call.readArg name text := by
  obtain ⟨before, after, hb, ha, rfl⟩ := h
  rw [Call.readArg, Text.trim_pad hb ha, Call.readArg]

/--
Whatever stands behind the first comma, a vertex load is decoded alike for all spellings of its
buffer and offset. If a count and a start stand there, with any blanks around them, it is the load
of this buffer from this offset on, or the error of the count or the start. And a name is read as a
symbol.
-/
theorem decodeLine_of_reference (l : LoadLine) (others : List Char) :
    (∀ l' : LoadLine, l'.name = l.name → l'.reference.offset = l.reference.offset →
      decodeLine (l'.text others) = decodeLine (l.text others)) ∧
    (∀ count start p q, Spaced [count] p → Spaced [start] q →
      Call.Closes (Source.stripLineComments others) [p, q] →
      decodeLine (l.text others) = (do
        let count ← Call.readArg "gsSPVertex" count
        let start ← Call.readArg "gsSPVertex" start
        let c : Call := ⟨"gsSPVertex", [.symbol (.ofList l.name), count, start]⟩
        return some (.load ⟨.ofList l.name, l.reference.offset, ← word c 1, ← word c 2⟩))) ∧
    ∀ text : String, Source.isIdentifier (Text.trim text.toList) = true →
      Arg.parse text = .symbol (.ofList (Text.trim text.toList)) := by
  refine ⟨fun l' hname hoffset => ?_, fun count start p q hp hq closes => ?_,
    fun text => ofChars_of_isIdentifier⟩
  · rw [l.decodeLine_text, l'.decodeLine_text, hname, hoffset]
  · rw [l.decodeLine_text, Call.readOthers, Call.splitArgs_of_closes closes]
    dsimp only
    rw [List.mapM_cons, List.mapM_cons, List.mapM_nil, readArg_of_spaced hp, readArg_of_spaced hq]
    cases Call.readArg "gsSPVertex" count with
    | error e => rfl
    | ok count =>
      cases Call.readArg "gsSPVertex" start with
      | error e => rfl
      | ok start =>
        change (loadOf (.ofList l.name) l.reference.offset [count, start] >>= _) = _
        rw [loadOf]
        simp only [bind_assoc, pure_bind]
        rfl

theorem decodeLine_of_reference_exponents :
    decodeLine "gsSPVertex(E+16, 4, 0)" = .ok (some (.load ⟨"E", 16, 4, 0⟩)) ∧
      decodeLine "\tgsSPVertex ( & E[ 0X010]\n, 4, 0)" = decodeLine "gsSPVertex(E+16, 4, 0)" ∧
      Arg.parse " e10\t" = .symbol "e10" := by
  let sum : LoadLine :=
    { indent := []
      gap := []
      name := ['E']
      reference := .sum { numeral := { digits := [⟨1, false⟩, ⟨6, false⟩] } }
      argument := "E+16".toList
      spaced := ⟨[], _, rfl, ⟨[], _, rfl, ⟨[], [], rfl, rfl, rfl⟩, rfl⟩, rfl⟩ }
  let element : LoadLine :=
    { indent := ['\t']
      gap := [' ']
      name := ['E']
      reference := .element
        { numeral :=
            { radix := .hexadecimal true, digits := [⟨0, false⟩, ⟨1, false⟩, ⟨0, false⟩] } }
      argument := " & E[ 0X010]\n".toList
      spaced := ⟨[' '], _, rfl, ⟨[' '], _, rfl, ⟨[], _, rfl, ⟨[' '], _, rfl,
        ⟨[], ['\n'], rfl, rfl, rfl⟩, rfl⟩, rfl⟩, rfl⟩, rfl⟩ }
  obtain ⟨same, load, symbol⟩ := decodeLine_of_reference sum " 4, 0)".toList
  refine ⟨?_, same element rfl rfl, symbol " e10\t" (by decide)⟩
  have read := load ['4'] ['0'] " 4".toList " 0".toList ⟨[' '], [], rfl, rfl, rfl⟩
    ⟨[' '], [], rfl, rfl, rfl⟩ (Call.splitArgs_eq_iff.1 (by decide +kernel))
  exact read.trans (by decide +kernel)

end SceneDraw.DisplayList
