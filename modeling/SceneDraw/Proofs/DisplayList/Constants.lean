import SceneDraw.DisplayList.Decode
import SceneDraw.Proofs.Call.Reading
import SceneDraw.Proofs.Text

namespace SceneDraw.DisplayList

def numberArguments (name : String) : List Nat :=
  match name with
  | "gsSPTexture" => [0, 1, 2, 3]
  | "gsSPLight" => [1]
  | "gsSPVertex" => [1, 2]
  | "gsSP1Triangle" => [0, 1, 2]
  | "gsSP2Triangles" => [0, 1, 2, 4, 5, 6]
  | "gsDPSetTile" => [2, 3, 4, 5, 7, 8, 10, 11]
  | "gsDPSetTextureImage" => [2]
  | "gsDPLoadTextureBlock" => [3, 4, 3, 5, 9, 11, 8, 10]
  | "gsDPLoadTextureBlock_4b" => [2, 3, 2, 4, 8, 10, 7, 9]
  | "gsDPSetEnvColor" => [0, 1, 2, 3]
  | _ => []

/-- The numbers that a command has from these arguments. The line of a block is its width. -/
def Command.numbers : Command → List Nat
  | texture scale _ => [scale.s, scale.t, scale.level, scale.tile].map (·.toNat)
  | light _ _ slot => [slot.toNat]
  | load l => [l.count, l.start].map (·.toNat)
  | triangle t => t.toList.map (·.toNat)
  | twoTriangles t u => (t.toList ++ u.toList).map (·.toNat)
  | tile t =>
    [t.line, t.memory, t.index, t.palette, t.maskT, t.shiftT, t.maskS, t.shiftS].map (·.toNat)
  | textureImage _ _ width _ => [width.toNat]
  | textureBlock _ width height t =>
    [width, height, t.line, t.palette, t.maskT, t.shiftT, t.maskS, t.shiftS].map (·.toNat)
  | environment color => [color.r, color.g, color.b, color.a].map (·.toNat)
  | _ => []

def Operand (t : List Char) (n : Int64) : Prop :=
  Arg.readInt? (Text.trim t) = some n ∨ headerConstant? (.ofList (Text.trim t)) = some n

def operandTexts : Arg → List (List Char)
  | .symbol s => Text.split '|' s.toList
  | _ => []

/-- The values of all operands of an argument, of which there is one at least. -/
inductive Spells : Arg → List Int64 → Prop
  | literal (n : Int64) : Spells (.int n) [n]
  | operands {s : String} {ns : List Int64} : ns ≠ [] →
      List.Forall₂ Operand (operandTexts (.symbol s)) ns → Spells (.symbol s) ns

/-- The values of those operands of an argument that are not blank. -/
inductive Yields : Arg → List Int64 → Prop
  | literal (n : Int64) : Yields (.int n) [n]
  | operands {s : String} {ns : List Int64} :
      List.Forall₂ Operand ((operandTexts (.symbol s)).filter (!Text.allBlank ·)) ns →
      Yields (.symbol s) ns

def Gapless (a : Arg) : Prop := ∀ t ∈ operandTexts a, Text.allBlank t = false

instance (a : Arg) : Decidable (Gapless a) :=
  inferInstanceAs (Decidable (∀ t ∈ operandTexts a, Text.allBlank t = false))

def AmountsTo (values : Arg → List Int64 → Prop) (a : Arg) (n : Nat) : Prop :=
  ∃ ns, values a ns ∧ (n : Int) = (ns.foldl (· ||| ·) 0).toInt

inductive Malformed : Arg → Prop
  | float (x : Float) : Malformed (.float x)
  | operand {s : String} {t : List Char} : t ∈ operandTexts (.symbol s) →
      Text.allBlank t = false → (∀ n, ¬Operand t n) → Malformed (.symbol s)

lemma Operand.not_allBlank {t : List Char} {n : Int64} (h : Operand t n) :
    Text.allBlank t = false := by
  rw [Bool.eq_false_iff]
  intro blank
  have none : headerConstant? (.ofList []) = none := by decide +kernel
  rw [Operand, Text.trim_eq_nil_iff.2 blank, none] at h
  rcases h with h | h
  · cases h
  · cases h

lemma spells_iff {a : Arg} {ns : List Int64} : Spells a ns ↔ Gapless a ∧ Yields a ns := by
  have all {ts : List (List Char)} (h : ∀ t ∈ ts, Text.allBlank t = false) :
      ts.filter (!Text.allBlank ·) = ts :=
    List.filter_eq_self.2 fun t ht => by rw [h t ht]; rfl
  constructor
  · intro h
    cases h with
    | literal n => exact ⟨fun _ h => absurd h List.not_mem_nil, .literal n⟩
    | @operands s ns _ hns =>
      have gapless : Gapless (.symbol s) := by
        intro t ht
        obtain ⟨n, -, hn⟩ := exists_of_forall₂ hns ht
        exact hn.not_allBlank
      exact ⟨gapless, .operands ((all gapless).symm ▸ hns)⟩
  · rintro ⟨gapless, n | hns⟩
    · exact .literal n
    · rw [all gapless] at hns
      refine .operands ?_ hns
      rintro rfl
      rw [operandTexts, Text.split_eq_splitOn] at hns
      exact List.splitOn_ne_nil _ _ (List.forall₂_nil_right_iff.1 hns)

lemma operand_of_operand? {t : List Char} {n : Int64}
    (h : operand? (.ofList (Text.trim t)) = some n) : Operand t n := by
  rw [operand?, Arg.parse, String.toList_ofList, Arg.ofChars, Text.trim_trim] at h
  split at h
  · next hp =>
    left
    split at hp
    · next hr =>
      rw [hr, ← h, Arg.int.inj hp]
    · split at hp <;> cases hp
  · exact .inr h

lemma operands_eq_map (s : String) :
    Arg.operands s = ((operandTexts (.symbol s)).filter (!Text.allBlank ·)).map
      fun t => .ofList (Text.trim t) := by
  have kept : ((fun t => !t.isEmpty) ∘ Text.trim) = fun t => !Text.allBlank t := by
    funext t
    rw [Function.comp_apply, Bool.eq_iff_iff]
    simp [Text.trim_eq_nil_iff]
  rw [Arg.operands, List.filter_map, kept, List.map_map]
  rfl

lemma forall₂_of_foldlM {ts : List (List Char)} {acc n : Int64}
    (h : (ts.map fun t => String.ofList (Text.trim t)).foldlM
      (fun acc t => (operand? t).map (acc ||| ·)) acc = some n) :
    ∃ ns, List.Forall₂ Operand ts ns ∧ n = ns.foldl (· ||| ·) acc := by
  induction ts generalizing acc with
  | nil => exact ⟨[], .nil, (Option.some.inj h).symm⟩
  | cons t ts ih =>
    rw [List.map_cons, List.foldlM_cons, Option.bind_eq_bind, Option.bind_eq_some_iff] at h
    obtain ⟨acc', hacc, h⟩ := h
    obtain ⟨m, hm, rfl⟩ := Option.map_eq_some_iff.1 hacc
    obtain ⟨ns, hns, hn⟩ := ih h
    exact ⟨m :: ns, .cons (operand_of_operand? hm) hns, hn⟩

lemma yields_of_constant? {a : Arg} {n : Int64} (h : constant? a = some n) :
    ∃ ns, Yields a ns ∧ n = ns.foldl (· ||| ·) 0 := by
  cases a with
  | int m =>
    obtain rfl := Option.some.inj h
    exact ⟨[m], .literal m, by simp⟩
  | float x => cases h
  | symbol s =>
    rw [constant?, operands_eq_map] at h
    obtain ⟨ns, hns, hn⟩ := forall₂_of_foldlM h
    exact ⟨ns, .operands hns, hn⟩

lemma toNat_toUInt64 {n : Int64} (h : 0 ≤ n) : (n.toUInt64.toNat : Int) = n.toInt := by
  have bits : n.toInt = if 2 * n.toUInt64.toNat < 0x10000000000000000 then (n.toUInt64.toNat : Int)
      else n.toUInt64.toNat - 0x10000000000000000 := BitVec.toInt_eq_toNat_cond n.toBitVec
  have small := n.toUInt64.toNat_lt
  have sign : 0 ≤ n.toInt := Int64.le_iff_toInt_le.1 h
  split at bits <;> omega

lemma amountsTo_of_constantBelow? {a : Arg} {bound : Int64} {k : UInt64}
    (h : constantBelow? bound a = some k) : AmountsTo Yields a k.toNat ∧ k.toNat < bound.toInt := by
  rw [constantBelow?, Option.bind_eq_some_iff] at h
  obtain ⟨n, hn, h⟩ := h
  split at h
  · next range =>
    obtain rfl := Option.some.inj h
    obtain ⟨ns, hns, rfl⟩ := yields_of_constant? hn
    have value := toNat_toUInt64 range.1
    exact ⟨⟨ns, hns, value⟩, value ▸ Int64.lt_iff_toInt_lt.1 range.2⟩
  · cases h

lemma amountsTo_of_word? {a : Arg} {k : UInt32} (h : word? a = some k) : AmountsTo Yields a k.toNat := by
  obtain ⟨m, hm, rfl⟩ := Option.map_eq_some_iff.1 h
  obtain ⟨amount, hlt⟩ := amountsTo_of_constantBelow? hm
  have : m.toNat < 0x100000000 := Int.ofNat_lt.1 hlt
  rwa [UInt64.toNat_toUInt32, Nat.mod_eq_of_lt this]

lemma amountsTo_of_byte? {a : Arg} {k : UInt8} (h : byte? a = some k) : AmountsTo Yields a k.toNat := by
  obtain ⟨m, hm, rfl⟩ := Option.map_eq_some_iff.1 h
  obtain ⟨amount, hlt⟩ := amountsTo_of_constantBelow? hm
  have : m.toNat < 0x100 := Int.ofNat_lt.1 hlt
  rwa [UInt64.toNat_toUInt8, Nat.mod_eq_of_lt this]

variable {c : Call}

def AmountsAt (values : Arg → List Int64 → Prop) (c : Call) (i n : Nat) : Prop :=
  ∃ a, c.args[i]? = some a ∧ AmountsTo values a n

lemma amountsAt_of_word {i : Nat} {n : UInt32} (h : word c i = .ok n) : AmountsAt Yields c i n.toNat := by
  obtain ⟨a, hi, ha⟩ := read_eq_ok_iff.1 h
  exact ⟨a, hi, amountsTo_of_word? ha⟩

lemma amountsAt_of_byte {i : Nat} {n : UInt8} (h : byte c i = .ok n) : AmountsAt Yields c i n.toNat := by
  obtain ⟨a, hi, ha⟩ := read_eq_ok_iff.1 h
  exact ⟨a, hi, amountsTo_of_byte? ha⟩

lemma forall₂_of_triangleAt {i : Nat} {t : Triangle} (h : triangleAt c i = .ok t) :
    List.Forall₂ (AmountsAt Yields c) [i, i + 1, i + 2] (t.toList.map (·.toNat)) := by
  obtain ⟨x, hx, h⟩ := ok_of_bind h
  obtain ⟨y, hy, h⟩ := ok_of_bind h
  obtain ⟨z, hz, h⟩ := ok_of_bind h
  obtain rfl := Except.ok.inj h
  exact .cons (amountsAt_of_word hx) (.cons (amountsAt_of_word hy)
    (.cons (amountsAt_of_word hz) .nil))

lemma forall₂_of_textureBlock {size? : Option TexelSize} {d : Command}
    (h : textureBlock c size? = .ok d) :
    List.Forall₂ (AmountsAt Yields c)
      (let i := if size?.isSome then 3 else 2
       [i, i + 1, i, i + 2, i + 6, i + 8, i + 5, i + 7]) d.numbers := by
  obtain ⟨width, hwidth, h⟩ := ok_of_bind h
  obtain ⟨image, -, h⟩ := ok_of_bind h
  obtain ⟨height, hheight, h⟩ := ok_of_bind h
  obtain ⟨format, -, h⟩ := ok_of_bind h
  obtain ⟨palette, hpalette, h⟩ := ok_of_bind h
  obtain ⟨wrapT, -, h⟩ := ok_of_bind h
  obtain ⟨maskT, hmaskT, h⟩ := ok_of_bind h
  obtain ⟨shiftT, hshiftT, h⟩ := ok_of_bind h
  obtain ⟨wrapS, -, h⟩ := ok_of_bind h
  obtain ⟨maskS, hmaskS, h⟩ := ok_of_bind h
  obtain ⟨shiftS, hshiftS, h⟩ := ok_of_bind h
  obtain rfl := Except.ok.inj h
  exact .cons (amountsAt_of_word hwidth) (.cons (amountsAt_of_word hheight)
    (.cons (amountsAt_of_word hwidth) (.cons (amountsAt_of_word hpalette)
    (.cons (amountsAt_of_word hmaskT) (.cons (amountsAt_of_word hshiftT)
    (.cons (amountsAt_of_word hmaskS) (.cons (amountsAt_of_word hshiftS) .nil)))))))

section

variable {args : List Arg} {d : Command}

lemma forall₂_of_texture (h : ofCall ⟨"gsSPTexture", args⟩ = .ok d) :
    List.Forall₂ (AmountsAt Yields ⟨"gsSPTexture", args⟩) [0, 1, 2, 3] d.numbers := by
  obtain ⟨⟨⟩, -, h⟩ := ok_of_bind h
  obtain ⟨s, hs, h⟩ := ok_of_bind h
  obtain ⟨t, ht, h⟩ := ok_of_bind h
  obtain ⟨level, hlevel, h⟩ := ok_of_bind h
  obtain ⟨tile, htile, h⟩ := ok_of_bind h
  obtain ⟨enable, -, h⟩ := ok_of_bind h
  obtain rfl := Except.ok.inj h
  exact .cons (amountsAt_of_word hs) (.cons (amountsAt_of_word ht)
    (.cons (amountsAt_of_word hlevel) (.cons (amountsAt_of_word htile) .nil)))

lemma forall₂_of_light (h : ofCall ⟨"gsSPLight", args⟩ = .ok d) :
    List.Forall₂ (AmountsAt Yields ⟨"gsSPLight", args⟩) [1] d.numbers := by
  obtain ⟨⟨⟩, -, h⟩ := ok_of_bind h
  obtain ⟨reference, -, h⟩ := ok_of_bind h
  obtain ⟨⟨light, part⟩, -, h⟩ := ok_of_bind h
  obtain ⟨slot, hslot, h⟩ := ok_of_bind h
  obtain rfl := Except.ok.inj h
  exact .cons (amountsAt_of_word hslot) .nil

lemma forall₂_of_load (h : ofCall ⟨"gsSPVertex", args⟩ = .ok d) :
    List.Forall₂ (AmountsAt Yields ⟨"gsSPVertex", args⟩) [1, 2] d.numbers := by
  obtain ⟨⟨⟩, -, h⟩ := ok_of_bind h
  obtain ⟨reference, -, h⟩ := ok_of_bind h
  obtain ⟨⟨buffer, offset⟩, -, h⟩ := ok_of_bind h
  obtain ⟨count, hcount, h⟩ := ok_of_bind h
  obtain ⟨start, hstart, h⟩ := ok_of_bind h
  obtain rfl := Except.ok.inj h
  exact .cons (amountsAt_of_word hcount) (.cons (amountsAt_of_word hstart) .nil)

lemma forall₂_of_triangle (h : ofCall ⟨"gsSP1Triangle", args⟩ = .ok d) :
    List.Forall₂ (AmountsAt Yields ⟨"gsSP1Triangle", args⟩) [0, 1, 2] d.numbers := by
  obtain ⟨⟨⟩, -, h⟩ := ok_of_bind h
  obtain ⟨t, ht, h⟩ := ok_of_bind h
  obtain rfl := Except.ok.inj h
  exact forall₂_of_triangleAt ht

lemma forall₂_of_twoTriangles (h : ofCall ⟨"gsSP2Triangles", args⟩ = .ok d) :
    List.Forall₂ (AmountsAt Yields ⟨"gsSP2Triangles", args⟩) [0, 1, 2, 4, 5, 6] d.numbers := by
  obtain ⟨⟨⟩, -, h⟩ := ok_of_bind h
  obtain ⟨t, ht, h⟩ := ok_of_bind h
  obtain ⟨u, hu, h⟩ := ok_of_bind h
  obtain rfl := Except.ok.inj h
  exact List.rel_append (forall₂_of_triangleAt ht) (forall₂_of_triangleAt hu)

lemma forall₂_of_tile (h : ofCall ⟨"gsDPSetTile", args⟩ = .ok d) :
    List.Forall₂ (AmountsAt Yields ⟨"gsDPSetTile", args⟩) [2, 3, 4, 5, 7, 8, 10, 11] d.numbers := by
  obtain ⟨⟨⟩, -, h⟩ := ok_of_bind h
  obtain ⟨format, -, h⟩ := ok_of_bind h
  obtain ⟨size, -, h⟩ := ok_of_bind h
  obtain ⟨line, hline, h⟩ := ok_of_bind h
  obtain ⟨memory, hmemory, h⟩ := ok_of_bind h
  obtain ⟨index, hindex, h⟩ := ok_of_bind h
  obtain ⟨palette, hpalette, h⟩ := ok_of_bind h
  obtain ⟨wrapT, -, h⟩ := ok_of_bind h
  obtain ⟨maskT, hmaskT, h⟩ := ok_of_bind h
  obtain ⟨shiftT, hshiftT, h⟩ := ok_of_bind h
  obtain ⟨wrapS, -, h⟩ := ok_of_bind h
  obtain ⟨maskS, hmaskS, h⟩ := ok_of_bind h
  obtain ⟨shiftS, hshiftS, h⟩ := ok_of_bind h
  obtain rfl := Except.ok.inj h
  exact .cons (amountsAt_of_word hline) (.cons (amountsAt_of_word hmemory)
    (.cons (amountsAt_of_word hindex) (.cons (amountsAt_of_word hpalette)
    (.cons (amountsAt_of_word hmaskT) (.cons (amountsAt_of_word hshiftT)
    (.cons (amountsAt_of_word hmaskS) (.cons (amountsAt_of_word hshiftS) .nil)))))))

lemma forall₂_of_textureImage (h : ofCall ⟨"gsDPSetTextureImage", args⟩ = .ok d) :
    List.Forall₂ (AmountsAt Yields ⟨"gsDPSetTextureImage", args⟩) [2] d.numbers := by
  obtain ⟨⟨⟩, -, h⟩ := ok_of_bind h
  obtain ⟨format, -, h⟩ := ok_of_bind h
  obtain ⟨size, -, h⟩ := ok_of_bind h
  obtain ⟨width, hwidth, h⟩ := ok_of_bind h
  obtain ⟨image, -, h⟩ := ok_of_bind h
  obtain rfl := Except.ok.inj h
  exact .cons (amountsAt_of_word hwidth) .nil

lemma forall₂_of_block (h : ofCall ⟨"gsDPLoadTextureBlock", args⟩ = .ok d) :
    List.Forall₂ (AmountsAt Yields ⟨"gsDPLoadTextureBlock", args⟩) [3, 4, 3, 5, 9, 11, 8, 10]
      d.numbers := by
  obtain ⟨⟨⟩, -, h⟩ := ok_of_bind h
  obtain ⟨size, -, h⟩ := ok_of_bind h
  exact forall₂_of_textureBlock h

lemma forall₂_of_block4 (h : ofCall ⟨"gsDPLoadTextureBlock_4b", args⟩ = .ok d) :
    List.Forall₂ (AmountsAt Yields ⟨"gsDPLoadTextureBlock_4b", args⟩) [2, 3, 2, 4, 8, 10, 7, 9]
      d.numbers := by
  obtain ⟨⟨⟩, -, h⟩ := ok_of_bind h
  exact forall₂_of_textureBlock h

lemma forall₂_of_environment (h : ofCall ⟨"gsDPSetEnvColor", args⟩ = .ok d) :
    List.Forall₂ (AmountsAt Yields ⟨"gsDPSetEnvColor", args⟩) [0, 1, 2, 3] d.numbers := by
  obtain ⟨⟨⟩, -, h⟩ := ok_of_bind h
  obtain ⟨r, hr, h⟩ := ok_of_bind h
  obtain ⟨g, hg, h⟩ := ok_of_bind h
  obtain ⟨b, hb, h⟩ := ok_of_bind h
  obtain ⟨a, ha, h⟩ := ok_of_bind h
  obtain rfl := Except.ok.inj h
  exact .cons (amountsAt_of_byte hr) (.cons (amountsAt_of_byte hg)
    (.cons (amountsAt_of_byte hb) (.cons (amountsAt_of_byte ha) .nil)))

lemma numbers_of_ofCall {c : Call} (hn : numberArguments c.name = []) (h : ofCall c = .ok d) :
    d.numbers = [] := by
  rw [ofCall] at h
  split at h
  -- A call has arguments that are numbers, no effect, or one argument of another kind.
  all_goals first
    | next name =>
      rw [name] at hn
      cases hn
    | obtain rfl := Except.ok.inj h
      rfl
    | obtain ⟨⟨⟩, -, h⟩ := ok_of_bind h
      obtain ⟨a, -, h⟩ := ok_of_bind h
      obtain rfl := Except.ok.inj h
      rfl

end

lemma forall₂_of_ofCall {d : Command} (h : ofCall c = .ok d) :
    List.Forall₂ (AmountsAt Yields c) (numberArguments c.name) d.numbers := by
  obtain ⟨name, args⟩ := c
  obtain rfl | texture := eq_or_ne name "gsSPTexture"
  · exact forall₂_of_texture h
  obtain rfl | light := eq_or_ne name "gsSPLight"
  · exact forall₂_of_light h
  obtain rfl | load := eq_or_ne name "gsSPVertex"
  · exact forall₂_of_load h
  obtain rfl | triangle := eq_or_ne name "gsSP1Triangle"
  · exact forall₂_of_triangle h
  obtain rfl | twoTriangles := eq_or_ne name "gsSP2Triangles"
  · exact forall₂_of_twoTriangles h
  obtain rfl | tile := eq_or_ne name "gsDPSetTile"
  · exact forall₂_of_tile h
  obtain rfl | textureImage := eq_or_ne name "gsDPSetTextureImage"
  · exact forall₂_of_textureImage h
  obtain rfl | block := eq_or_ne name "gsDPLoadTextureBlock"
  · exact forall₂_of_block h
  obtain rfl | block4 := eq_or_ne name "gsDPLoadTextureBlock_4b"
  · exact forall₂_of_block4 h
  obtain rfl | environment := eq_or_ne name "gsDPSetEnvColor"
  · exact forall₂_of_environment h
  have unread : numberArguments name = [] := by
    simp only [numberArguments]
  rw [unread, numbers_of_ofCall unread h]
  exact .nil

lemma Malformed.not_amountsTo {a : Arg} {n : Nat} (h : Malformed a) : ¬AmountsTo Yields a n := by
  rintro ⟨ns, hns, -⟩
  cases h with
  | float x => cases hns
  | operand ht blank bad =>
    obtain _ | hns := hns
    obtain ⟨m, -, hm⟩ := exists_of_forall₂ hns (List.mem_filter.2 ⟨ht, by rw [blank]; rfl⟩)
    exact bad m hm

lemma forall₂_spells_iff {is ns : List Nat} (h : List.Forall₂ (AmountsAt Yields c) is ns) :
    List.Forall₂ (AmountsAt Spells c) is ns ↔ ∀ i ∈ is, ∀ a ∈ c.args[i]?, Gapless a := by
  constructor
  · intro hs i hi a ha
    obtain ⟨n, -, a', ha', ns, hns, -⟩ := exists_of_forall₂ hs hi
    obtain rfl := Option.some.inj (ha.symm.trans ha')
    exact (spells_iff.1 hns).1
  · intro gapless
    induction h with
    | nil => exact .nil
    | cons hn _ ih =>
      rw [List.forall_mem_cons] at gapless
      obtain ⟨a, ha, ns, hns, amount⟩ := hn
      exact .cons ⟨a, ha, ns, spells_iff.2 ⟨gapless.1 a ha, hns⟩, amount⟩ (ih gapless.2)

lemma exists_of_decodeLine {line : String} {r : Option Command} {c : Call}
    (hc : Call.parse line = .ok (some c)) (h : decodeLine line = .ok r) :
    ∃ d, r = some d ∧ ofCall c = .ok d := by
  rw [decodeLine, hc] at h
  obtain ⟨d, hd, h⟩ := ok_of_bind (x := ofCall c) h
  exact ⟨d, (Except.ok.inj h).symm, hd⟩

lemma call_of_decodeLine {line : String} {d : Command} (h : decodeLine line = .ok (some d)) :
    ∃ c, Call.parse line = .ok (some c) ∧ ofCall c = .ok d := by
  obtain ⟨call, hc, -⟩ := ok_of_bind h
  cases call with
  | none =>
    rw [decodeLine, hc] at h
    cases h
  | some c =>
    obtain ⟨d', hd', hd⟩ := exists_of_decodeLine hc h
    exact ⟨c, hc, hd.trans (congrArg _ (Option.some.inj hd').symm)⟩

/--
Each number of a command is made of the operands of its argument, all of them literals or header
constants, and of nothing else; a call with an operand that is neither is not decoded. Only operands
that are blank do not count: where there are none, there is an operand at least, and all are values.
-/
theorem decodeLine_numbers (line : String) :
    (∀ d, decodeLine line = .ok (some d) → ∃ c, Call.parse line = .ok (some c) ∧
      List.Forall₂ (AmountsAt Yields c) (numberArguments c.name) d.numbers ∧
      (List.Forall₂ (AmountsAt Spells c) (numberArguments c.name) d.numbers ↔
        ∀ i ∈ numberArguments c.name, ∀ a ∈ c.args[i]?, Gapless a)) ∧
    ∀ c, Call.parse line = .ok (some c) → ∀ i ∈ numberArguments c.name, ∀ a ∈ c.args[i]?,
      Malformed a → ∃ e, decodeLine line = .error e := by
  refine ⟨fun d h => ?_, fun c hc i hi a ha malformed => ?_⟩
  · obtain ⟨c, hc, hd⟩ := call_of_decodeLine h
    have yields := forall₂_of_ofCall hd
    exact ⟨c, hc, yields, forall₂_spells_iff yields⟩
  · cases h : decodeLine line with
    | error e => exact ⟨e, rfl⟩
    | ok r =>
      obtain ⟨d, -, hd⟩ := exists_of_decodeLine hc h
      obtain ⟨n, -, a', ha', amount⟩ := exists_of_forall₂ (forall₂_of_ofCall hd) hi
      obtain rfl := Option.some.inj (ha.symm.trans ha')
      exact absurd amount malformed.not_amountsTo

theorem decodeLine_numbers_coin :
    List.Forall₂ (AmountsAt Spells
        ⟨"gsSPVertex", [.symbol "coin_vtx", .symbol "1 | G_TX_CLAMP", .int 0]⟩) [1, 2] [3, 0] ∧
      ∃ e, decodeLine "gsSPVertex(coin_vtx, 1 | SOME, 0)" = .error e := by
  constructor
  · have parsed : Call.parse "gsSPVertex(coin_vtx, 1 | G_TX_CLAMP, 0)" =
        .ok (some ⟨"gsSPVertex", [.symbol "coin_vtx", .symbol "1 | G_TX_CLAMP", .int 0]⟩) := by
      decide +kernel
    obtain ⟨c, hc, -, spells⟩ := (decodeLine_numbers "gsSPVertex(coin_vtx, 1 | G_TX_CLAMP, 0)").1
      (.load ⟨"coin_vtx", 0, 3, 0⟩) (by decide +kernel)
    obtain rfl := Option.some.inj (Except.ok.inj (parsed.symm.trans hc))
    exact spells.2 (by decide +kernel)
  · refine (decodeLine_numbers _).2
      ⟨"gsSPVertex", [.symbol "coin_vtx", .symbol "1 | SOME", .int 0]⟩ (by decide +kernel) 1
      (by decide +kernel) _ rfl
      (.operand (t := " SOME".toList) (by decide +kernel) (by decide +kernel) fun n => ?_)
    have literal : Arg.readInt? (Text.trim " SOME".toList) = none := by decide +kernel
    have constant : headerConstant? (.ofList (Text.trim " SOME".toList)) = none := by
      decide +kernel
    rintro (h | h)
    · cases literal.symm.trans h
    · cases constant.symm.trans h

theorem bar_is_zero :
    decodeLine "gsSPVertex(coin_vtx, |, 0)" = .ok (some (.load ⟨"coin_vtx", 0, 0, 0⟩)) ∧
    Call.parse "gsSPVertex(coin_vtx, |, 0)" =
      .ok (some ⟨"gsSPVertex", [.symbol "coin_vtx", .symbol "|", .int 0]⟩) ∧
    1 ∈ numberArguments "gsSPVertex" ∧ ¬∃ ns, Spells (.symbol "|") ns := by
  refine ⟨by decide +kernel, by decide +kernel, by decide +kernel, ?_⟩
  rintro ⟨ns, h⟩
  have gap : ¬Gapless (.symbol "|") := by decide +kernel
  exact gap (spells_iff.1 h).1

end SceneDraw.DisplayList
