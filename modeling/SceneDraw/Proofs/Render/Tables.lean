import SceneDraw.Proofs.Basic
import SceneDraw.Proofs.Number.Numeral
import SceneDraw.Proofs.Source.Initializer
import SceneDraw.Render.Tables

namespace SceneDraw

open Source (Initializer Body Leaf)

inductive Cell
  | coordinate (x : Int16)
  | flag (x : UInt16)
  | byte (b : UInt8)
  | direction (d : Int8)
  | padding

def Cell.spellings : Cell → List Int
  | coordinate x => [x.toInt]
  | flag x => [x.toNat]
  | byte b => [b.toNat]
  -- A signed byte, or the equal unsigned one.
  | direction d => [d.toInt, d.toUInt8.toNat]
  | padding => [0]

/-- An initializer without its blanks and its last commas, and with numbers for numerals. -/
inductive Shape
  | cell (c : Cell)
  | group (name : Option (List Char)) (items : List Shape)

namespace Shape

def braces (items : List Shape) : Shape := group none items

def cells : Shape → List Cell
  | cell c => [c]
  | group _ items => below items
where
  below : List Shape → List Cell
    | [] => []
    | s :: rest => s.cells ++ below rest

lemma below_eq_flatMap (items : List Shape) : cells.below items = items.flatMap cells := by
  induction items with
  | nil => rfl
  | cons s rest ih => rw [cells.below, ih, List.flatMap_cons]

end Shape

inductive Writes : Initializer → Shape → Prop
  | value {leaf : Leaf} {n : Number.Numeral} {c : Cell} : Text.trim leaf.text = n.chars →
      n.value ∈ c.spellings → Writes (.value leaf) (.cell c)
  | group {frame : Source.Frame} {items : List Initializer} {ending : Source.Ending}
      {shapes : List Shape} : List.Forall₂ Writes items shapes →
      Writes (.group frame items ending) (.group frame.name shapes)

def Vertex.shape (v : Vertex) : Shape :=
  .braces [.braces [.braces (v.pos.toList.map fun x => .cell (.coordinate x)), .cell (.flag v.flag),
    .braces (v.uv.toList.map fun x => .cell (.coordinate x)),
    .braces (v.cn.toList.map fun b => .cell (.byte b))]]

def colorShapes (c : Rgb) : List Shape := c.toList.map fun b => .cell (.byte b)

def directionShapes (d : Vec3 Int8) : List Shape := d.toList.map fun b => .cell (.direction b)

namespace Light

def callShape (l : Light) : Shape :=
  .group (some ("gdSPDefLights".toList ++ Number.decimal l.directional.length))
    (colorShapes l.ambient ++
      l.directional.flatMap fun d => colorShapes d.color ++ directionShapes d.dir)

def twice (c : Rgb) : List Shape :=
  [.braces (colorShapes c), .cell .padding, .braces (colorShapes c), .cell .padding]

def structShapes (ambient : Rgb) (d : DirectionalLight) : List Shape :=
  [.braces (twice ambient),
    .braces [.braces (twice d.color ++ [.braces (directionShapes d.dir), .cell .padding])]]

end Light

namespace Cell

variable {c : Cell} {n : Int}

lemma natAbs_lt (h : n ∈ c.spellings) : n.natAbs < Nat.pow 2 63 := by
  have wide : 65536 ≤ Nat.pow 2 63 := by decide
  cases c with
  | coordinate x =>
    obtain rfl := List.mem_singleton.1 h
    have := x.toInt_lt
    have := x.le_toInt
    omega
  | flag x =>
    obtain rfl := List.mem_singleton.1 h
    have := x.toNat_lt
    omega
  | byte b =>
    obtain rfl := List.mem_singleton.1 h
    have := b.toNat_lt
    omega
  | direction d =>
    have := d.toInt_lt
    have := d.le_toInt
    have := d.toUInt8.toNat_lt
    simp only [spellings, List.mem_cons, List.not_mem_nil, or_false] at h
    omega
  | padding =>
    obtain rfl := List.mem_singleton.1 h
    omega

lemma toInt16_of_coordinate {x : Int16} (h : n ∈ (coordinate x).spellings) :
    (Int64.ofInt n).toInt16 = x := by
  obtain rfl := List.mem_singleton.1 h
  rw [Int64.toInt16_ofInt, Int16.ofInt_toInt]

lemma toUInt16_of_flag {x : UInt16} (h : n ∈ (flag x).spellings) :
    (Int64.ofInt n).toUInt64.toUInt16 = x := by
  obtain rfl := List.mem_singleton.1 h
  rw [Int64.ofInt_eq_ofNat]
  simp

lemma toUInt8_of_byte {b : UInt8} (h : n ∈ (byte b).spellings) :
    (Int64.ofInt n).toUInt64.toUInt8 = b := by
  obtain rfl := List.mem_singleton.1 h
  rw [Int64.ofInt_eq_ofNat]
  simp

lemma toInt8_of_direction {d : Int8} (h : n ∈ (direction d).spellings) :
    (Int64.ofInt n).toInt8 = d := by
  rw [Int64.toInt8_ofInt]
  simp only [spellings, List.mem_cons, List.not_mem_nil, or_false] at h
  rcases h with rfl | rfl
  · exact Int8.ofInt_toInt d
  · apply Int8.toBitVec_inj.1
    simp

end Cell

def Spells (ns : List Int) (cs : List Cell) : Prop :=
  List.Forall₂ (fun n c => n ∈ c.spellings) ns cs

def literal (n : Int) : Arg := .int (.ofInt n)

lemma values_of_items {items : List Initializer} {shapes : List Shape}
    (h : ∀ i ∈ items, ∀ s, Writes i s → ∃ ns, Spells ns s.cells ∧ i.values = ns.map literal)
    (hw : List.Forall₂ Writes items shapes) :
    ∃ ns, Spells ns (shapes.flatMap Shape.cells) ∧
      items.flatMap Initializer.values = ns.map literal := by
  induction hw with
  | nil => exact ⟨[], .nil, rfl⟩
  | cons hi _ ih =>
    rw [List.forall_mem_cons] at h
    obtain ⟨ns, hns, hvalues⟩ := h.1 _ hi
    obtain ⟨ms, hms, hrest⟩ := ih h.2
    refine ⟨ns ++ ms, List.rel_append hns hms, ?_⟩
    rw [List.flatMap_cons, hvalues, hrest, List.map_append]

lemma values_of_writes {i : Initializer} {s : Shape} (h : Writes i s) :
    ∃ ns, Spells ns s.cells ∧ i.values = ns.map literal := by
  induction i generalizing s with
  | value leaf =>
    obtain @⟨_, n, c, ht, hn⟩ := h
    refine ⟨[n.value], .cons hn .nil, ?_⟩
    have read := n.ofChars_of_trim ht (n.natAbs_value ▸ c.natAbs_lt hn)
    simp [Initializer.values, Initializer.leaves, Leaf.arg, Arg.parse, read, literal]
  | group frame items ending ih =>
    obtain _ | hw := h
    obtain ⟨ns, hns, hvalues⟩ := values_of_items (fun i hi s hw => ih i hi hw) hw
    refine ⟨ns, ?_, ?_⟩
    · rwa [Shape.cells, Shape.below_eq_flatMap]
    · rw [Initializer.values_group, hvalues]

lemma integers_map_literal (ns : List Int) :
    integers (ns.map literal) = .ok (ns.map Int64.ofInt) := by
  refine mapM_eq_ok_iff.2 ?_
  rw [List.forall₂_map_left_iff, List.forall₂_map_right_iff]
  exact List.forall₂_same.2 fun n _ => rfl

lemma integers_of_writes {b : Body} {shapes : List Shape} (h : List.Forall₂ Writes b.items shapes) :
    ∃ ns, Spells ns (shapes.flatMap Shape.cells) ∧
      Source.flatten b.chars = .ok (ns.map literal) := by
  obtain ⟨ns, hns, hvalues⟩ := values_of_items (fun i _ s hw => values_of_writes hw) h
  refine ⟨ns, hns, ?_⟩
  rw [Source.flatten, Source.flattenFrom_body, ← hvalues, Body.leaves, List.map_flatMap]
  rfl

variable {ns : List Int} {cs : List Cell}

lemma spells_cons {c : Cell} (h : Spells ns (c :: cs)) :
    ∃ n ms, ns = n :: ms ∧ n ∈ c.spellings ∧ Spells ms cs := by
  obtain ⟨n, ms, hn, hms, rfl⟩ := List.forall₂_cons_right_iff.1 h
  exact ⟨n, ms, rfl, hn, hms⟩

lemma spells_triple {α : Type} {f : α → Cell} {v : Vec3 α} (h : Spells ns (v.toList.map f ++ cs)) :
    ∃ x y z ms, ns = x :: y :: z :: ms ∧ (x ∈ (f v.x).spellings ∧ y ∈ (f v.y).spellings ∧
      z ∈ (f v.z).spellings) ∧ Spells ms cs := by
  obtain ⟨x, _, rfl, hx, h⟩ := spells_cons h
  obtain ⟨y, _, rfl, hy, h⟩ := spells_cons h
  obtain ⟨z, ms, rfl, hz, h⟩ := spells_cons h
  exact ⟨x, y, z, ms, rfl, ⟨hx, hy, hz⟩, h⟩

lemma Vertex.cells_shape (v : Vertex) :
    v.shape.cells = v.pos.toList.map .coordinate ++ .flag v.flag ::
      (v.uv.toList.map .coordinate ++ v.cn.toList.map .byte) := rfl

lemma Vertex.ofIntegers_of_spells {vs : List Vertex}
    (h : Spells ns ((vs.map Vertex.shape).flatMap Shape.cells)) :
    ns.length % 10 = 0 ∧ Vertex.ofIntegers (ns.map Int64.ofInt) = vs := by
  induction vs generalizing ns with
  | nil =>
    obtain rfl := List.forall₂_nil_right_iff.1 h
    exact ⟨rfl, rfl⟩
  | cons v vs ih =>
    rw [List.map_cons, List.flatMap_cons, cells_shape, List.append_assoc] at h
    obtain ⟨x, y, z, _, rfl, ⟨hx, hy, hz⟩, h⟩ := spells_triple h
    obtain ⟨flag, _, rfl, hflag, h⟩ := spells_cons h
    obtain ⟨u, _, rfl, hu, h⟩ := spells_cons h
    obtain ⟨w, _, rfl, hw, h⟩ := spells_cons h
    obtain ⟨c₀, _, rfl, h₀, h⟩ := spells_cons h
    obtain ⟨c₁, _, rfl, h₁, h⟩ := spells_cons h
    obtain ⟨c₂, _, rfl, h₂, h⟩ := spells_cons h
    obtain ⟨c₃, ms, rfl, h₃, h⟩ := spells_cons h
    obtain ⟨hlength, hrest⟩ := ih h
    refine ⟨by simp only [List.length_cons]; omega, ?_⟩
    simp only [List.map_cons, ofIntegers, hrest, Cell.toInt16_of_coordinate hx,
      Cell.toInt16_of_coordinate hy, Cell.toInt16_of_coordinate hz, Cell.toUInt16_of_flag hflag,
      Cell.toInt16_of_coordinate hu, Cell.toInt16_of_coordinate hw, Cell.toUInt8_of_byte h₀,
      Cell.toUInt8_of_byte h₁, Cell.toUInt8_of_byte h₂, Cell.toUInt8_of_byte h₃]

namespace Light

def lightCells (d : DirectionalLight) : List Cell :=
  d.color.toList.map .byte ++ d.dir.toList.map .direction

lemma cells_callShape (l : Light) :
    l.callShape.cells = l.ambient.toList.map .byte ++ l.directional.flatMap lightCells := by
  have each (ds : List DirectionalLight) :
      (ds.flatMap fun d => colorShapes d.color ++ directionShapes d.dir).flatMap Shape.cells =
        ds.flatMap lightCells := by
    rw [List.flatMap_assoc]
    rfl
  rw [callShape, Shape.cells, Shape.below_eq_flatMap, List.flatMap_append, each]
  rfl

lemma color_of_spells {r g b : Int} {c : Rgb} (h : r ∈ (Cell.byte c.x).spellings ∧
    g ∈ (Cell.byte c.y).spellings ∧ b ∈ (Cell.byte c.z).spellings) :
    color (.ofInt r) (.ofInt g) (.ofInt b) = c := by
  rw [color, Cell.toUInt8_of_byte h.1, Cell.toUInt8_of_byte h.2.1, Cell.toUInt8_of_byte h.2.2]

lemma direction_of_spells {x y z : Int} {d : Vec3 Int8} (h : x ∈ (Cell.direction d.x).spellings ∧
    y ∈ (Cell.direction d.y).spellings ∧ z ∈ (Cell.direction d.z).spellings) :
    (⟨(Int64.ofInt x).toInt8, (Int64.ofInt y).toInt8, (Int64.ofInt z).toInt8⟩ : Vec3 Int8) = d := by
  rw [Cell.toInt8_of_direction h.1, Cell.toInt8_of_direction h.2.1, Cell.toInt8_of_direction h.2.2]

lemma directional_of_spells {ds : List DirectionalLight} (h : Spells ns (ds.flatMap lightCells)) :
    ns.length % 6 = 0 ∧ directionalOfIntegers (ns.map Int64.ofInt) = ds := by
  induction ds generalizing ns with
  | nil =>
    obtain rfl := List.forall₂_nil_right_iff.1 h
    exact ⟨rfl, rfl⟩
  | cons d ds ih =>
    rw [List.flatMap_cons, lightCells, List.append_assoc] at h
    obtain ⟨r, g, b, _, rfl, hcolor, h⟩ := spells_triple h
    obtain ⟨x, y, z, ms, rfl, hdir, h⟩ := spells_triple h
    obtain ⟨hlength, hrest⟩ := ih h
    refine ⟨by simp only [List.length_cons]; omega, ?_⟩
    simp only [List.map_cons, directionalOfIntegers, hrest, color_of_spells hcolor,
      direction_of_spells hdir]

lemma ofIntegers?_of_length {r g b : Int64} {rest : List Int64} (h : rest.length % 6 = 0) :
    ofIntegers? (r :: g :: b :: rest) = some ⟨color r g b, directionalOfIntegers rest⟩ := by
  rw [ofIntegers?]
  · exact if_pos h
  -- Of the form with twenty values, the length of the rest is seventeen.
  · rintro _ _ _ _ _ _ _ _ _ _ _ _ _ _ _ _ _ rfl
    exact absurd h (show ¬17 % 6 = 0 by decide)

lemma ofIntegers?_of_call {l : Light} (h : Spells ns l.callShape.cells) :
    ofIntegers? (ns.map Int64.ofInt) = some l := by
  rw [cells_callShape] at h
  obtain ⟨r, g, b, ms, rfl, hambient, h⟩ := spells_triple h
  obtain ⟨hlength, hrest⟩ := directional_of_spells h
  rw [List.map_cons, List.map_cons, List.map_cons, ofIntegers?_of_length (by rwa [List.length_map]),
    color_of_spells hambient, hrest]

lemma cells_structShapes (ambient : Rgb) (d : DirectionalLight) :
    (structShapes ambient d).flatMap Shape.cells =
      ambient.toList.map .byte ++ .padding :: (ambient.toList.map .byte ++ .padding ::
        (d.color.toList.map .byte ++ .padding :: (d.color.toList.map .byte ++ .padding ::
          (d.dir.toList.map .direction ++ [.padding])))) := rfl

lemma ofIntegers?_of_struct {ambient : Rgb} {d : DirectionalLight}
    (h : Spells ns ((structShapes ambient d).flatMap Shape.cells)) :
    ofIntegers? (ns.map Int64.ofInt) = some ⟨ambient, [d]⟩ := by
  rw [cells_structShapes] at h
  obtain ⟨r, g, b, _, rfl, hambient, h⟩ := spells_triple h
  obtain ⟨_, _, rfl, -, h⟩ := spells_cons h
  obtain ⟨_, _, _, _, rfl, -, h⟩ := spells_triple h
  obtain ⟨_, _, rfl, -, h⟩ := spells_cons h
  obtain ⟨r', g', b', _, rfl, hcolor, h⟩ := spells_triple h
  obtain ⟨_, _, rfl, -, h⟩ := spells_cons h
  obtain ⟨_, _, _, _, rfl, -, h⟩ := spells_triple h
  obtain ⟨_, _, rfl, -, h⟩ := spells_cons h
  obtain ⟨x, y, z, _, rfl, hdir, h⟩ := spells_triple h
  obtain ⟨_, _, rfl, -, h⟩ := spells_cons h
  obtain rfl := List.forall₂_nil_right_iff.1 h
  simp only [List.map_cons, List.map_nil, ofIntegers?, color_of_spells hambient,
    color_of_spells hcolor, direction_of_spells hdir]

end Light

variable {name : String} {text : List Char}

lemma VertexTable.insertInitializer_of_integers {t : VertexTable}
    (hvalues : Source.flatten text = .ok (ns.map literal)) (hlength : ns.length % 10 = 0) :
    t.insertInitializer name text =
      .ok (t.insert name (Vertex.ofIntegers (ns.map Int64.ofInt))) := by
  simp only [insertInitializer, hvalues, bind, Except.bind, Vertex.listOfValues, List.length_map,
    hlength, integers_map_literal]
  rfl

lemma LightTable.insertInitializer_of_integers {t : LightTable} {l : Light}
    (hvalues : Source.flatten text = .ok (ns.map literal))
    (hlight : Light.ofIntegers? (ns.map Int64.ofInt) = some l) :
    t.insertInitializer name text = .ok (t.insert name l) := by
  simp only [insertInitializer, hvalues, bind, Except.bind, Light.ofValues, integers_map_literal,
    hlight]
  rfl

/--
Vertices, and lights in both of their forms, are read back from every way to write them, whatever
blanks there are and in whatever radix each number is.
-/
theorem insertInitializer_of_writes (vt : VertexTable) (lt : LightTable) (name : String)
    (b : Body) :
    (∀ vs : List Vertex, List.Forall₂ Writes b.items (vs.map Vertex.shape) →
      vt.insertInitializer name b.chars = .ok (vt.insert name vs)) ∧
    (∀ l : Light, List.Forall₂ Writes b.items [l.callShape] →
      lt.insertInitializer name b.chars = .ok (lt.insert name l)) ∧
    ∀ (ambient : Rgb) (d : DirectionalLight),
      List.Forall₂ Writes b.items (Light.structShapes ambient d) ∨
        List.Forall₂ Writes b.items [.braces (Light.structShapes ambient d)] →
      lt.insertInitializer name b.chars = .ok (lt.insert name ⟨ambient, [d]⟩) := by
  refine ⟨fun vs h => ?_, fun l h => ?_, fun ambient d h => ?_⟩
  · obtain ⟨ns, hns, hvalues⟩ := integers_of_writes h
    obtain ⟨hlength, hvertices⟩ := Vertex.ofIntegers_of_spells hns
    rw [VertexTable.insertInitializer_of_integers hvalues hlength, hvertices]
  · obtain ⟨ns, hns, hvalues⟩ := integers_of_writes h
    rw [List.flatMap_singleton] at hns
    exact LightTable.insertInitializer_of_integers hvalues (Light.ofIntegers?_of_call hns)
  · rcases h with h | h
    · obtain ⟨ns, hns, hvalues⟩ := integers_of_writes h
      exact LightTable.insertInitializer_of_integers hvalues (Light.ofIntegers?_of_struct hns)
    · obtain ⟨ns, hns, hvalues⟩ := integers_of_writes h
      rw [List.flatMap_singleton, Shape.braces, Shape.cells, Shape.below_eq_flatMap] at hns
      exact LightTable.insertInitializer_of_integers hvalues (Light.ofIntegers?_of_struct hns)

theorem insertInitializer_of_writes_sail :
    VertexTable.insertInitializer .empty "sail_vtx"
        "\x7b\x7b\x7b-40, 0, 0\x7d, 0,\x7b 0, 0\x7d,\x7b 0, 0, 0, 0\x7d\x7d\x7d,\n".toList =
      .ok (KeyMap.empty.insert "sail_vtx" [⟨⟨-40, 0, 0⟩, 0, ⟨0, 0⟩, ⟨0, 0, 0, 0⟩⟩]) ∧
    LightTable.insertInitializer .empty "sail_lights"
        "gdSPDefLights1( 0, 0, 0, 0, 0, 0,-40, 0xd8, 0)".toList =
      .ok (KeyMap.empty.insert "sail_lights" ⟨⟨0, 0, 0⟩, [⟨⟨0, 0, 0⟩, ⟨-40, -40, 0⟩⟩]⟩) ∧
    LightTable.insertInitializer .empty "sail_lights"
        ("\x7b\x7b 0, 0, 0\x7d, 0,\x7b 0, 0, 0\x7d, 0\x7d,".toList ++
          "\x7b\x7b\x7b 0, 0, 0\x7d, 0,\x7b 0, 0, 0\x7d, 0,".toList ++
          "\x7b-40, 0xd8, 0\x7d, 0\x7d\x7d".toList) =
      .ok (KeyMap.empty.insert "sail_lights" ⟨⟨0, 0, 0⟩, [⟨⟨0, 0, 0⟩, ⟨-40, -40, 0⟩⟩]⟩) := by
  let zero : Initializer := .value { text := " 0".toList }
  let minus : Initializer := .value { text := "-40".toList }
  let marked : Initializer := .value { text := " 0xd8".toList }
  let braces (items : List Initializer) : Initializer := .group {} items {}
  let row := braces [braces [braces [minus, zero, zero], zero, braces [zero, zero],
    braces [zero, zero, zero, zero]]]
  let call : Initializer := .group { name := some "gdSPDefLights1".toList }
    [zero, zero, zero, zero, zero, zero, minus, marked, zero] {}
  let twice := [braces [zero, zero, zero], zero, braces [zero, zero, zero], zero]
  let struct := [braces twice, braces [braces (twice ++ [braces [minus, marked, zero], zero])]]
  have hzero (c : Cell) (h : 0 ∈ c.spellings) : Writes zero (.cell c) :=
    .value (n := { digits := [⟨0, false⟩] }) (by decide) h
  have hminus (c : Cell) (h : -40 ∈ c.spellings) : Writes minus (.cell c) :=
    .value (n := { sign := .minus, digits := [⟨4, false⟩, ⟨0, false⟩] }) (by decide) h
  have hmarked (c : Cell) (h : 216 ∈ c.spellings) : Writes marked (.cell c) :=
    .value (n := { radix := .hexadecimal false, digits := [⟨13, false⟩, ⟨8, false⟩] }) (by decide) h
  have black : List.Forall₂ Writes [zero, zero, zero] (colorShapes ⟨0, 0, 0⟩) :=
    .cons (hzero _ (by decide)) (.cons (hzero _ (by decide)) (.cons (hzero _ (by decide)) .nil))
  have slanted : List.Forall₂ Writes [minus, marked, zero] (directionShapes ⟨-40, -40, 0⟩) :=
    .cons (hminus _ (by decide)) (.cons (hmarked _ (by decide)) (.cons (hzero _ (by decide)) .nil))
  have padding : Writes zero (.cell .padding) := hzero _ (by decide)
  have blacks : List.Forall₂ Writes twice (Light.twice ⟨0, 0, 0⟩) :=
    .cons (.group black) (.cons padding (.cons (.group black) (.cons padding .nil)))
  have hrow : Writes row (Vertex.shape ⟨⟨-40, 0, 0⟩, 0, ⟨0, 0⟩, ⟨0, 0, 0, 0⟩⟩) := by
    refine .group (.cons (.group (.cons (.group ?_) (.cons (hzero _ (by decide))
      (.cons (.group ?_) (.cons (.group ?_) .nil))))) .nil)
    · exact .cons (hminus _ (by decide)) (.cons (hzero _ (by decide))
        (.cons (hzero _ (by decide)) .nil))
    · exact .cons (hzero _ (by decide)) (.cons (hzero _ (by decide)) .nil)
    · exact .cons (hzero _ (by decide)) black
  have hcall : Writes call (Light.callShape ⟨⟨0, 0, 0⟩, [⟨⟨0, 0, 0⟩, ⟨-40, -40, 0⟩⟩]⟩) :=
    .group (List.rel_append black (List.rel_append black slanted))
  have hstruct : List.Forall₂ Writes struct
      (Light.structShapes ⟨0, 0, 0⟩ ⟨⟨0, 0, 0⟩, ⟨-40, -40, 0⟩⟩) :=
    .cons (.group blacks) (.cons (.group (.cons (.group (List.rel_append blacks
      (.cons (.group slanted) (.cons padding .nil)))) .nil)) .nil)
  have rowChars : (Body.mk [row] { comma := true, blank := ['\n'] }).chars =
      "\x7b\x7b\x7b-40, 0, 0\x7d, 0,\x7b 0, 0\x7d,\x7b 0, 0, 0, 0\x7d\x7d\x7d,\n".toList := by
    decide +kernel
  have callChars : (Body.mk [call] {}).chars =
      "gdSPDefLights1( 0, 0, 0, 0, 0, 0,-40, 0xd8, 0)".toList := by
    decide +kernel
  have structChars : (Body.mk struct {}).chars =
      "\x7b\x7b 0, 0, 0\x7d, 0,\x7b 0, 0, 0\x7d, 0\x7d,".toList ++
        "\x7b\x7b\x7b 0, 0, 0\x7d, 0,\x7b 0, 0, 0\x7d, 0,".toList ++
        "\x7b-40, 0xd8, 0\x7d, 0\x7d\x7d".toList := by
    decide +kernel
  refine ⟨?_, ?_, ?_⟩
  · rw [← rowChars]
    exact (insertInitializer_of_writes _ .empty _ _).1 _ (.cons hrow .nil)
  · rw [← callChars]
    exact (insertInitializer_of_writes .empty _ _ _).2.1 _ (.cons hcall .nil)
  · rw [← structChars]
    exact (insertInitializer_of_writes .empty _ _ _).2.2 _ _ (.inl hstruct)

end SceneDraw
