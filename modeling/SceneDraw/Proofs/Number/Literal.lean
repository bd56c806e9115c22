import SceneDraw.Proofs.Number.Numeral

namespace SceneDraw.Number

def Numeral.Spells (n : Numeral) (text : String) : Prop :=
  ∃ before after, Text.allBlank before = true ∧ Text.allBlank after = true ∧
    text.toList = before ++ n.chars ++ after

lemma dropFloatSuffix_append (s : List Char) :
    ∃ tail, s = Arg.dropFloatSuffix s ++ tail ∧ ∀ c ∈ tail, c = 'f' ∨ c = 'F' := by
  rw [Arg.dropFloatSuffix]
  cases lower : Text.beforeSuffix? ['f'] s with
  | some r => exact ⟨['f'], (List.isSuffixOf?_eq_some_iff_append_eq.1 lower).symm, by simp⟩
  | none =>
    cases upper : Text.beforeSuffix? ['F'] s with
    | some r => exact ⟨['F'], (List.isSuffixOf?_eq_some_iff_append_eq.1 upper).symm, by simp⟩
    | none => exact ⟨[], (List.append_nil s).symm, nofun⟩

def startsNumber (c : Char) : Bool := isDecDigit c || "+-.".toList.contains c

section

variable {c : Char} (hc : startsNumber c = false)
include hc

lemma ne_of_startsNumber {d : Char} (hd : startsNumber d = true) : c ≠ d := by
  rintro rfl
  exact Bool.false_ne_true (hc.symm.trans hd)

lemma isDecDigit_eq_false : isDecDigit c = false := (Bool.or_eq_false_iff.1 hc).1

lemma readDec_eq_none (s : List Char) : readDec (c :: s) = none := by
  have digit : decDigit? c = none :=
    Option.not_isSome_iff_eq_none.1 (Bool.eq_false_iff.1 (isDecDigit_eq_false hc))
  rw [readDec, readNumeral, readDigits, List.foldlM_cons, digit]
  · rfl
  · exact List.cons_ne_nil c s

lemma splitSign_eq_self (s : List Char) : splitSign (c :: s) = (false, c :: s) := by
  rw [splitSign.eq_3]
  · exact fun t h => ne_of_startsNumber hc (d := '-') rfl (List.cons.inj h).1
  · exact fun t h => ne_of_startsNumber hc (d := '+') rfl (List.cons.inj h).1

lemma readInt?_eq_none (s : List Char) : Arg.readInt? (c :: s) = none := by
  have magnitude : Arg.magnitude? (c :: s) = none := by
    rw [Arg.magnitude?.eq_3, readDec_eq_none hc]
    · exact fun t h => ne_of_startsNumber hc (d := '0') rfl (List.cons.inj h).1
    · exact fun t h => ne_of_startsNumber hc (d := '0') rfl (List.cons.inj h).1
  rw [Arg.readInt?, splitSign_eq_self hc]
  change (Arg.magnitude? _ >>= _) = _
  rw [magnitude]
  rfl

lemma decimalRead?_eq_none (s : List Char) : Decimal.read? (c :: s) = none := by
  have digit := isDecDigit_eq_false hc
  have point : c ≠ '.' := ne_of_startsNumber hc rfl
  simp only [Decimal.read?, splitSign_eq_self hc, List.takeWhile_cons, List.dropWhile_cons, digit]
  simp [point, readDec, readNumeral]

lemma readFloat?_eq_none (s : List Char) : Arg.readFloat? (c :: s) = none := by
  obtain ⟨tail, hs, hf⟩ := dropFloatSuffix_append (c :: s)
  rw [Arg.readFloat?]
  cases hd : Arg.dropFloatSuffix (c :: s) with
  | nil => rfl
  | cons d t =>
    obtain ⟨rfl, -⟩ := List.cons.inj (hs.trans (congrArg (· ++ tail) hd))
    rw [decimalRead?_eq_none hc]
    exact ite_self none

end

lemma ofChars_eq_symbol {c : Char} (hc : startsNumber c = false) {text s : List Char}
    (h : Text.trim text = c :: s) : Arg.ofChars text = .symbol (.ofList (c :: s)) := by
  rw [Arg.ofChars, h, readInt?_eq_none hc, readFloat?_eq_none hc]

namespace Numeral

variable (n : Numeral)

lemma trim_of_spells {n : Numeral} {text : String} (h : n.Spells text) :
    Text.trim text.toList = n.chars := by
  obtain ⟨before, after, hb, ha, htext⟩ := h
  rw [htext, Text.trim_pad hb ha, Text.trim_of_isWord n.isWord_chars]

lemma spells_of_trim {n : Numeral} {text : String} (h : Text.trim text.toList = n.chars) :
    n.Spells text := by
  obtain ⟨before, after, hb, ha, htext⟩ := Text.exists_eq_pad_trim text.toList
  exact ⟨before, after, hb, ha, h ▸ htext⟩

lemma readDec_digits (h : n.radix = .decimal) :
    readDec (n.digits.map Digit.char) = some n.magnitude := by
  have below := n.below
  rw [magnitude, h] at *
  exact readNumeral_map 10 n.nonempty fun d hd => decDigit?_char d (below d hd)

lemma isDecDigit_of_mem_digits (h : n.radix = .decimal) :
    ∀ c ∈ n.digits.map Digit.char, isDecDigit c = true :=
  (digits_of_readNumeral (n.readDec_digits h)).2

lemma decimalRead?_chars (h : n.radix = .decimal) :
    Decimal.read? n.chars = some ⟨n.sign == .minus, n.magnitude, 0⟩ := by
  have digits := n.isDecDigit_of_mem_digits h
  simp only [Decimal.read?, splitSign_chars, h, Radix.mark, List.nil_append,
    List.takeWhile_eq_self_iff.2 digits, List.dropWhile_eq_nil_iff.2 digits, List.append_nil,
    n.readDec_digits h]
  rfl

lemma readFloat?_of_decimal (h : n.radix = .decimal) :
    Arg.readFloat? n.chars = some (Decimal.toFloat ⟨n.sign == .minus, n.magnitude, 0⟩) := by
  have digits := n.isDecDigit_of_mem_digits h
  have floatChars : ∀ c ∈ n.chars, Arg.isFloatChar c = true := by
    rw [chars, h]
    refine List.forall_mem_append.2 ⟨fun c hc => ?_, fun c hc => ?_⟩
    · obtain rfl | rfl := Sign.mem_chars hc <;> rfl
    · rw [Arg.isFloatChar, digits c hc]
      rfl
  have suffix : Arg.dropFloatSuffix n.chars = n.chars := by
    obtain ⟨tail, hs, hf⟩ := dropFloatSuffix_append n.chars
    cases tail with
    | nil => rw [← List.append_nil (Arg.dropFloatSuffix n.chars), ← hs]
    | cons c tail =>
      have float := floatChars c (hs ▸ by simp)
      obtain rfl | rfl := hf c List.mem_cons_self <;> cases float
  have digit : n.chars.any isDecDigit = true := by
    obtain ⟨c, hc⟩ := List.exists_mem_of_ne_nil _ (List.map_eq_nil_iff.not.2 n.nonempty)
    exact List.any_eq_true.2 ⟨c, by simp [chars, hc], digits c hc⟩
  rw [Arg.readFloat?, suffix, digit, List.all_eq_true.2 floatChars, decimalRead?_chars n h]
  rfl

lemma readFloat?_of_hexadecimal {capital : Bool} (h : n.radix = .hexadecimal capital) :
    Arg.readFloat? n.chars = none := by
  have mark : ∃ x ∈ n.chars, Arg.isFloatChar x = false ∧ x ≠ 'f' ∧ x ≠ 'F' := by
    rw [chars, h]
    cases capital
    · exact ⟨'x', by simp [Radix.mark], by decide⟩
    · exact ⟨'X', by simp [Radix.mark], by decide⟩
  obtain ⟨x, hx, float, lower, upper⟩ := mark
  obtain ⟨tail, hs, hf⟩ := dropFloatSuffix_append n.chars
  have hx : x ∈ Arg.dropFloatSuffix n.chars := by
    rw [hs] at hx
    obtain hx | hx := List.mem_append.1 hx
    · exact hx
    · obtain rfl | rfl := hf x hx <;> contradiction
  have all : (Arg.dropFloatSuffix n.chars).all Arg.isFloatChar = false :=
    List.all_eq_false.2 ⟨x, hx, by simp [float]⟩
  rw [Arg.readFloat?, all, Bool.and_false]
  rfl

def farArg : Arg :=
  match n.radix with
  | .decimal => .float (Decimal.toFloat ⟨n.sign == .minus, n.magnitude, 0⟩)
  | .hexadecimal _ => .symbol (.ofList n.chars)

lemma readInt?_of_le (h : Nat.pow 2 63 ≤ n.magnitude) : Arg.readInt? n.chars = none := by
  rw [Arg.readInt?, splitSign_chars]
  change (Arg.magnitude? _ >>= _) = _
  rw [magnitude?_marked]
  exact if_neg (Nat.not_lt.2 h)

variable {n} {text : String}

lemma parse_of_lt (hn : n.Spells text) (h : n.magnitude < Nat.pow 2 63) :
    Arg.parse text = .int (.ofInt n.value) :=
  n.ofChars_of_trim (trim_of_spells hn) h

lemma parse_of_le (hn : n.Spells text) (h : Nat.pow 2 63 ≤ n.magnitude) :
    Arg.parse text = n.farArg := by
  rw [Arg.parse, Arg.ofChars, trim_of_spells hn, n.readInt?_of_le h, farArg]
  cases radix : n.radix with
  | decimal => rw [n.readFloat?_of_decimal radix]
  | hexadecimal capital => rw [n.readFloat?_of_hexadecimal radix]

lemma magnitude_lt_iff {v : Int64} (h : n.value = v.toInt) :
    n.magnitude < Nat.pow 2 63 ↔ v ≠ Int64.minValue := by
  have least : v = Int64.minValue ↔ v.toInt = -Int.pow 2 63 := Int64.toInt_inj.symm
  have low := v.le_toInt
  have high := v.toInt_lt
  have := n.natAbs_value
  rw [ne_eq, least]
  norm_num at *
  omega

lemma toInt_ofInt_value (h : n.magnitude < Nat.pow 2 63) : (Int64.ofInt n.value).toInt = n.value := by
  have := n.natAbs_value
  norm_num at h
  exact Int64.toInt_ofInt_of_le (by norm_num; omega) (by norm_num; omega)

lemma parse_eq_int_iff {v : Int64} :
    Arg.parse text = .int v ↔ v ≠ Int64.minValue ∧ ∃ n : Numeral, n.Spells text ∧ n.value = v.toInt := by
  constructor
  · intro h
    have hv : Arg.readInt? (Text.trim text.toList) = some v := by
      rw [Arg.parse, Arg.ofChars] at h
      split at h
      · rename_i heq
        rw [heq, Arg.int.inj h]
      · split at h <;> cases h
    obtain ⟨n, hn, hlt, rfl⟩ := exists_numeral_of_readInt? hv
    have value := toInt_ofInt_value hlt
    exact ⟨(magnitude_lt_iff value.symm).1 hlt, n, spells_of_trim hn.symm, value.symm⟩
  · rintro ⟨hv, n, hn, value⟩
    rw [parse_of_lt hn ((magnitude_lt_iff value).2 hv), value, Int64.ofInt_toInt]

end Numeral

lemma readDigits_eq_ofDigitChars {s : List Char} (h : ∀ c ∈ s, c.isDigit = true) (acc : Nat) :
    readDigits 10 decDigit? acc s = some (Nat.ofDigitChars 10 s acc) := by
  induction s generalizing acc with
  | nil => rfl
  | cons c s ih =>
    rw [List.forall_mem_cons] at h
    have range : '0' ≤ c ∧ c ≤ '9' := by simpa [Char.isDigit] using! h.1
    have digit : decDigit? c = some (c.toNat - '0'.toNat) := if_pos range
    rw [readDigits, List.foldlM_cons, digit, Nat.ofDigitChars_cons]
    exact ih h.2 _

lemma magnitude?_toDigits (k : Nat) : Arg.magnitude? (Nat.toDigits 10 k) = some k := by
  have digits : ∀ c ∈ Nat.toDigits 10 k, c.isDigit = true :=
    fun c => Nat.isDigit_of_mem_toDigits (by decide) (by decide)
  have apart : 'x' ∉ Nat.toDigits 10 k ∧ 'X' ∉ Nat.toDigits 10 k :=
    ⟨fun h => Bool.false_ne_true (digits 'x' h), fun h => Bool.false_ne_true (digits 'X' h)⟩
  rw [Arg.magnitude?.eq_3]
  · obtain ⟨c, s, hs⟩ := List.exists_cons_of_ne_nil (Nat.toDigits_ne_nil (n := k) (b := 10))
    rw [readDec, hs, readNumeral, ← hs, readDigits_eq_ofDigitChars digits, Nat.ofDigitChars_ten_toDigits]
    exact List.cons_ne_nil c s
  · exact fun s hs => apart.1 (hs ▸ by simp)
  · exact fun s hs => apart.2 (hs ▸ by simp)

lemma exists_numeral_toString (i : Int) : ∃ n : Numeral, n.chars = (toString i).toList ∧ n.value = i := by
  rw [Int.toString_eq_repr, Int.repr_eq_if]
  simp only [Nat.repr_eq_ofList_toDigits]
  split_ifs with hi
  · obtain ⟨n, sign, digits, magnitude⟩ := exists_numeral (magnitude?_toDigits i.toNat) .bare
    refine ⟨n, ?_, ?_⟩
    · rw [Numeral.chars, sign, digits, String.toList_ofList]
      rfl
    · rw [Numeral.value, sign, magnitude, if_neg (by decide), Int.toNat_of_nonneg hi]
  · obtain ⟨n, sign, digits, magnitude⟩ := exists_numeral (magnitude?_toDigits (-i).toNat) .minus
    refine ⟨n, ?_, ?_⟩
    · simp only [Numeral.chars, sign, digits, String.toList_append, String.toList_ofList]
      rfl
    · rw [Numeral.value, sign, magnitude, if_pos rfl, Int.toNat_of_nonneg (by omega), Int.neg_neg]

lemma exists_spells_display (v : Int64) :
    ∃ n : Numeral, n.Spells (Arg.display (.int v)) ∧ n.value = v.toInt := by
  obtain ⟨n, chars, value⟩ := exists_numeral_toString v.toInt
  refine ⟨n, ⟨[], [], rfl, rfl, ?_⟩, value⟩
  rw [List.nil_append, List.append_nil, chars]
  rfl

/--
The texts that are read as an integer are the numerals of its value within blanks, and what it is
written as is one of them. The least integer is apart: no text is read as it. Its numerals, and all
that are as far from zero, are read as the nearest double or as a symbol.
-/
theorem integer_literals_exact (text : String) (v : Int64) :
    (Arg.parse text = .int v ↔
      v ≠ Int64.minValue ∧ ∃ n : Numeral, n.Spells text ∧ n.value = v.toInt) ∧
    (∀ n : Numeral, n.Spells text → Nat.pow 2 63 ≤ n.magnitude → Arg.parse text = n.farArg) ∧
    (Arg.parse (Arg.display (.int v)) = .int v ↔ v ≠ Int64.minValue) := by
  refine ⟨Numeral.parse_eq_int_iff, fun _ => Numeral.parse_of_le, ?_⟩
  rw [Numeral.parse_eq_int_iff, and_iff_left (exists_spells_display v)]

def Numeral.least : Numeral where
  sign := .minus
  digits := [9, 2, 2, 3, 3, 7, 2, 0, 3, 6, 8, 5, 4, 7, 7, 5, 8, 0, 8].map (⟨·, false⟩)

def Numeral.aboveLeast : Numeral where
  sign := .minus
  radix := .hexadecimal true
  digits := ⟨0, false⟩ :: ⟨7, false⟩ :: List.replicate 15 ⟨15, true⟩

theorem integer_literals_exact_at_ends :
    Arg.parse "\t-0X07FFFFFFFFFFFFFFF " = .int (-9223372036854775807) ∧
      Arg.parse " -9223372036854775808" =
        .float (Decimal.toFloat ⟨true, 9223372036854775808, 0⟩) ∧
      Arg.parse (Arg.display (.int Int64.maxValue)) = .int Int64.maxValue := by
  refine ⟨(integer_literals_exact _ _).1.2 ⟨by decide, .aboveLeast, ?_, by decide⟩, ?_,
    (integer_literals_exact "" _).2.2.2 (by decide)⟩
  · exact ⟨['\t'], [' '], by decide, by decide, by decide +kernel⟩
  · exact (integer_literals_exact _ 0).2.1 .least ⟨[' '], [], by decide, by decide, by decide +kernel⟩
      (by decide +kernel)

theorem least_integer_not_read_back :
    Arg.display (.int Int64.minValue) = "-9223372036854775808" ∧
      Arg.parse "-9223372036854775808" ≠ .int Int64.minValue ∧
      Arg.parse "-0x8000000000000000" ≠ .int Int64.minValue := by
  refine ⟨by decide +kernel, fun h => ?_, fun h => ?_⟩
  · have none : (Arg.parse "-9223372036854775808").int? = none := by decide +kernel
    cases none.symm.trans (congrArg Arg.int? h)
  · have none : (Arg.parse "-0x8000000000000000").int? = none := by decide +kernel
    cases none.symm.trans (congrArg Arg.int? h)

end SceneDraw.Number
