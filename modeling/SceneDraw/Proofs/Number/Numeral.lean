import Mathlib.Data.Nat.Digits.Defs
import Mathlib.Data.Set.List
import SceneDraw.Call.Arg
import SceneDraw.Proofs.Text

namespace SceneDraw.Number

inductive Sign
  | bare
  | plus
  | minus
  deriving DecidableEq

def Sign.chars : Sign → List Char
  | bare => []
  | plus => ['+']
  | minus => ['-']

inductive Radix
  | decimal
  | hexadecimal (capital : Bool)
  deriving DecidableEq

namespace Radix

def base : Radix → Nat
  | decimal => 10
  | hexadecimal _ => 16

def mark : Radix → List Char
  | decimal => []
  | hexadecimal capital => ['0', if capital then 'X' else 'x']

end Radix

structure Digit where
  value : Fin 16
  capital : Bool := false
  deriving DecidableEq

def Digit.char (d : Digit) : Char := hexChar d.capital d.value

structure Numeral where
  sign : Sign := .bare
  radix : Radix := .decimal
  digits : List Digit
  nonempty : digits ≠ [] := by decide
  below : ∀ d ∈ digits, d.value < radix.base := by decide

namespace Numeral

variable (n : Numeral)

def chars : List Char := n.sign.chars ++ (n.radix.mark ++ n.digits.map Digit.char)

def magnitude : Nat := Nat.ofDigits n.radix.base (n.digits.map (·.value.val)).reverse

def value : Int := if n.sign = .minus then -n.magnitude else n.magnitude

lemma natAbs_value : n.value.natAbs = n.magnitude := by
  rw [value]
  split_ifs <;> omega

end Numeral

lemma decDigit?_char (d : Digit) (h : d.value.val < 10) : decDigit? d.char = some d.value.val := by
  have all : ∀ (value : Fin 16) (capital : Bool), value.val < 10 →
      decDigit? (hexChar capital value) = some value.val := by decide
  exact all d.value d.capital h

lemma hexDigit?_char (d : Digit) : hexDigit? d.char = some d.value.val := by
  have all : ∀ (value : Fin 16) (capital : Bool),
      hexDigit? (hexChar capital value) = some value.val := by decide
  exact all d.value d.capital

lemma readDigits_map {base : Nat} {digit? : Char → Option Nat} {ds : List Digit}
    (h : ∀ d ∈ ds, digit? d.char = some d.value.val) (acc : Nat) :
    readDigits base digit? acc (ds.map Digit.char) =
      some (ds.foldl (fun n d => base * n + d.value.val) acc) := by
  induction ds generalizing acc with
  | nil => rfl
  | cons d ds ih =>
    rw [List.forall_mem_cons] at h
    rw [List.map_cons, readDigits, List.foldlM_cons, h.1]
    exact ih h.2 _

lemma readNumeral_map (base : Nat) {digit? : Char → Option Nat} {ds : List Digit}
    (hne : ds ≠ []) (h : ∀ d ∈ ds, digit? d.char = some d.value.val) :
    readNumeral base digit? (ds.map Digit.char) =
      some (Nat.ofDigits base (ds.map (·.value.val)).reverse) := by
  have value : Nat.ofDigits base (ds.map (·.value.val)).reverse =
      ds.foldl (fun n d => base * n + d.value.val) 0 := by
    rw [Nat.ofDigits_eq_foldr, List.foldr_reverse, List.foldl_map]
    simp only [Nat.cast_id, Nat.add_comm]
  obtain ⟨d, rest, rfl⟩ := List.exists_cons_of_ne_nil hne
  rw [List.map_cons, readNumeral, ← List.map_cons, readDigits_map h, value]
  exact List.cons_ne_nil _ _

namespace Numeral

variable (n : Numeral)

lemma magnitude?_marked :
    Arg.magnitude? (n.radix.mark ++ n.digits.map Digit.char) = some n.magnitude := by
  obtain ⟨sign, radix, ds, hne, below⟩ := n
  have hex := readNumeral_map 16 hne fun d _ => hexDigit?_char d
  cases radix with
  | hexadecimal capital => cases capital <;> exact hex
  | decimal =>
    have dec := readNumeral_map 10 hne fun d hd => decDigit?_char d (below d hd)
    have apart : ∀ c ∈ ds.map Digit.char, (decDigit? c).isSome := by
      intro c hc
      obtain ⟨d, hd, rfl⟩ := List.mem_map.1 hc
      rw [decDigit?_char d (below d hd)]
      rfl
    change Arg.magnitude? (ds.map Digit.char) = _
    rw [Arg.magnitude?.eq_3]
    · exact dec
    · intro s hs
      have := apart 'x' (hs ▸ by simp)
      cases this
    · intro s hs
      have := apart 'X' (hs ▸ by simp)
      cases this

lemma char_ne_sign (d : Digit) : d.char ≠ '-' ∧ d.char ≠ '+' := by
  have all : ∀ (value : Fin 16) (capital : Bool),
      hexChar capital value ≠ '-' ∧ hexChar capital value ≠ '+' := by decide
  exact all d.value d.capital

lemma splitSign_chars :
    splitSign n.chars = (n.sign == .minus, n.radix.mark ++ n.digits.map Digit.char) := by
  obtain ⟨sign, radix, ds, hne, below⟩ := n
  obtain ⟨d, ds, rfl⟩ := List.exists_cons_of_ne_nil hne
  cases sign with
  | plus => rfl
  | minus => rfl
  | bare =>
    cases radix with
    | hexadecimal capital => rfl
    | decimal =>
      obtain ⟨minus, plus⟩ := char_ne_sign d
      change splitSign (d.char :: ds.map Digit.char) = _
      rw [splitSign]
      · rfl
      · exact fun s hs => minus (List.cons.inj hs).1
      · exact fun s hs => plus (List.cons.inj hs).1

lemma signed_magnitude : signed (n.sign == .minus) n.magnitude = n.value := by
  rw [signed, value]
  cases n.sign <;> rfl

lemma readInt?_chars (h : n.magnitude < Nat.pow 2 63) :
    Arg.readInt? n.chars = some (.ofInt n.value) := by
  rw [Arg.readInt?, splitSign_chars]
  change (Arg.magnitude? _ >>= _) = _
  rw [magnitude?_marked]
  exact (if_pos h).trans (by rw [signed_magnitude])

lemma ofChars_of_trim {text : List Char} (ht : Text.trim text = n.chars)
    (h : n.magnitude < Nat.pow 2 63) : Arg.ofChars text = .int (.ofInt n.value) := by
  rw [Arg.ofChars, ht, readInt?_chars n h]

end Numeral

lemma hexDigit?_of_decDigit? {c : Char} (h : (decDigit? c).isSome) : (hexDigit? c).isSome := by
  rw [decDigit?, Option.isSome_ite] at h
  rw [hexDigit?, if_pos h]
  rfl

lemma code_of_hexDigit? {c : Char} (h : (hexDigit? c).isSome) :
    (48 ≤ c.toNat ∧ c.toNat ≤ 57) ∨ (97 ≤ c.toNat ∧ c.toNat ≤ 102) ∨
      (65 ≤ c.toNat ∧ c.toNat ≤ 70) := by
  rw [hexDigit?] at h
  split_ifs at h with dec lower upper
  · exact .inl dec
  · exact .inr (.inl lower)
  · exact .inr (.inr upper)
  · cases h

lemma not_isBlank_of_hexDigit? {c : Char} (h : (hexDigit? c).isSome) : Text.isBlank c = false := by
  have code := code_of_hexDigit? h
  simp only [Text.isBlank, Bool.or_eq_false_iff, Bool.and_eq_false_iff, decide_eq_false_iff_not,
    beq_eq_false_iff_ne]
  omega

lemma digits_of_readNumeral {base n : Nat} {digit? : Char → Option Nat} {s : List Char}
    (h : readNumeral base digit? s = some n) : s ≠ [] ∧ ∀ c ∈ s, (digit? c).isSome := by
  have digits (acc : Nat) (s : List Char) (h : readDigits base digit? acc s = some n) :
      ∀ c ∈ s, (digit? c).isSome := by
    induction s generalizing acc with
    | nil => exact nofun
    | cons c s ih =>
      rw [readDigits, List.foldlM_cons, Option.bind_eq_bind, Option.bind_eq_some_iff] at h
      obtain ⟨acc', hc, h⟩ := h
      obtain ⟨d, hd, -⟩ := Option.map_eq_some_iff.1 hc
      exact List.forall_mem_cons.2 ⟨by rw [hd]; rfl, ih acc' h⟩
  cases s with
  | nil => cases h
  | cons c s => exact ⟨List.cons_ne_nil c s, digits 0 (c :: s) h⟩

lemma Sign.mem_chars {sign : Sign} {c : Char} (h : c ∈ sign.chars) : c = '-' ∨ c = '+' := by
  cases sign with
  | bare => cases h
  | plus => exact .inr (List.mem_singleton.1 h)
  | minus => exact .inl (List.mem_singleton.1 h)

lemma exists_digit {c : Char} (h : (hexDigit? c).isSome) : ∃ d : Digit, d.char = c := by
  have all : ∀ n < 103, (hexDigit? (.ofNat n)).isSome →
      ∃ (value : Fin 16) (capital : Bool), hexChar capital value = .ofNat n := by decide +kernel
  have hc : c.toNat < 103 := by
    have := code_of_hexDigit? h
    omega
  obtain ⟨value, capital, hd⟩ := all c.toNat hc (by rwa [Char.ofNat_toNat])
  exact ⟨⟨value, capital⟩, hd.trans (Char.ofNat_toNat c)⟩

lemma exists_digits {s : List Char} (h : ∀ c ∈ s, (hexDigit? c).isSome) :
    ∃ ds : List Digit, ds.map Digit.char = s := by
  have range : s ∈ Set.range (List.map Digit.char) := by
    rw [Set.range_list_map]
    exact fun c hc => exists_digit (h c hc)
  exact range

lemma value_lt_ten (d : Digit) (h : (decDigit? d.char).isSome) : d.value.val < 10 := by
  have all : ∀ (value : Fin 16) (capital : Bool), (decDigit? (hexChar capital value)).isSome →
      value.val < 10 := by decide
  exact all d.value d.capital h

lemma exists_marked_digits {s : List Char} {m : Nat} (h : Arg.magnitude? s = some m) :
    ∃ (radix : Radix) (ds : List Digit), radix.mark ++ ds.map Digit.char = s ∧ ds ≠ [] ∧
      ∀ d ∈ ds, d.value < radix.base := by
  have hexadecimal (capital : Bool) {s : List Char} (h : readHex s = some m) :
      ∃ ds : List Digit, ds.map Digit.char = s ∧ ds ≠ [] ∧
        ∀ d ∈ ds, d.value < (Radix.hexadecimal capital).base := by
    obtain ⟨hne, digits⟩ := digits_of_readNumeral h
    obtain ⟨ds, rfl⟩ := exists_digits digits
    exact ⟨ds, rfl, List.map_eq_nil_iff.not.1 hne, fun d _ => d.value.isLt⟩
  rw [Arg.magnitude?.eq_def] at h
  split at h
  · obtain ⟨ds, rfl, hds⟩ := hexadecimal false h
    exact ⟨.hexadecimal false, ds, rfl, hds⟩
  · obtain ⟨ds, rfl, hds⟩ := hexadecimal true h
    exact ⟨.hexadecimal true, ds, rfl, hds⟩
  · obtain ⟨hne, digits⟩ := digits_of_readNumeral h
    obtain ⟨ds, rfl⟩ := exists_digits fun c hc => hexDigit?_of_decDigit? (digits c hc)
    exact ⟨.decimal, ds, rfl, List.map_eq_nil_iff.not.1 hne, fun d hd =>
      value_lt_ten d (digits _ (List.mem_map_of_mem hd))⟩

lemma exists_numeral {s : List Char} {m : Nat} (h : Arg.magnitude? s = some m) (sign : Sign) :
    ∃ n : Numeral, n.sign = sign ∧ n.radix.mark ++ n.digits.map Digit.char = s ∧
      n.magnitude = m := by
  obtain ⟨radix, ds, rfl, hne, below⟩ := exists_marked_digits h
  let n : Numeral := ⟨sign, radix, ds, hne, below⟩
  exact ⟨n, rfl, rfl, Option.some.inj (n.magnitude?_marked.symm.trans h)⟩

lemma exists_numeral_of_readInt? {s : List Char} {v : Int64} (h : Arg.readInt? s = some v) :
    ∃ n : Numeral, n.chars = s ∧ n.magnitude < Nat.pow 2 63 ∧ v = .ofInt n.value := by
  rw [Arg.readInt?, Option.bind_eq_bind, Option.bind_eq_some_iff] at h
  obtain ⟨m, hm, h⟩ := h
  have signs : ∃ sign : Sign, (splitSign s).1 = (sign == .minus) ∧
      sign.chars ++ (splitSign s).2 = s := by
    rw [splitSign.eq_def]
    split
    exacts [⟨.minus, rfl, rfl⟩, ⟨.plus, rfl, rfl⟩, ⟨.bare, rfl, rfl⟩]
  obtain ⟨sign, negative, hs⟩ := signs
  obtain ⟨n, rfl, marked, rfl⟩ := exists_numeral hm sign
  rw [negative, Numeral.signed_magnitude, Option.ite_none_right_eq_some] at h
  refine ⟨n, ?_, h.1, (Option.some.inj h.2).symm⟩
  rw [Numeral.chars, marked, hs]

lemma Numeral.isWord_chars (n : Numeral) : Text.isWord n.chars = true := by
  have digits : ∀ c ∈ n.digits.map Digit.char, Text.isBlank c = false :=
    List.forall_mem_map.2 fun d _ => not_isBlank_of_hexDigit? (by rw [hexDigit?_char]; rfl)
  have mark : ∀ c ∈ n.radix.mark, Text.isBlank c = false := by
    cases n.radix with
    | decimal => exact List.forall_mem_nil _
    | hexadecimal capital =>
      cases capital <;> exact List.forall_mem_cons.2 ⟨rfl, List.forall_mem_singleton.2 rfl⟩
  have sign : ∀ c ∈ n.sign.chars, Text.isBlank c = false := by
    intro c hc
    obtain rfl | rfl := Sign.mem_chars hc <;> rfl
  have all := List.forall_mem_append.2 ⟨sign, List.forall_mem_append.2 ⟨mark, digits⟩⟩
  exact Text.isWord_iff.2 ⟨by simp [chars, n.nonempty], all⟩

lemma isWord_of_readInt? {s : List Char} {n : Int64} (h : Arg.readInt? s = some n) :
    Text.isWord s = true := by
  obtain ⟨n, rfl, -⟩ := exists_numeral_of_readInt? h
  exact n.isWord_chars

end SceneDraw.Number
