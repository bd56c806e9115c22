import SceneDraw.Proofs.Basic
import SceneDraw.Proofs.Scene.Indexing
import SceneDraw.Proofs.Source.Definition
import SceneDraw.Proofs.Source.Initializer

namespace SceneDraw.Scene

open Source (Definition fileChars lineFeeds)

def bodyLines (body : List Char) : List String := (Text.trimmedLines body).map .ofList

def vertices? (body : List Char) : Option (List Vertex) :=
  (Source.flatten body >>= Vertex.listOfValues).toOption

def light? (body : List Char) : Option Light := (Source.flatten body >>= Light.ofValues).toOption

structure Table (α : Type) where
  type : String
  entries : Assets → KeyMap String α
  value? : List Char → Option α

namespace Table

def layouts : Table (List String) :=
  ⟨"GeoLayout", (·.sources.layouts), fun body => some (bodyLines body)⟩

def displayLists : Table (List String) :=
  ⟨"Gfx", (·.sources.displayLists), fun body => some (bodyLines body)⟩

def vertices : Table (List Vertex) := ⟨"Vtx", (·.vertices), vertices?⟩

def lights : Table Light := ⟨"Lights1", (·.lights), light?⟩

def Holds {α : Type} (k : Table α) (ds : List Definition) (a : Assets) : Prop :=
  ∀ name v, (k.entries a).find? name = some v ↔
    ∃ d ∈ ds, String.ofList d.type = k.type ∧ .ofList d.name = name ∧ k.value? d.body = some v

end Table

def indexedTypes : List String := ["GeoLayout", "Gfx", "Vtx", "Lights1"]

def Decodes (d : Definition) : Prop :=
  (String.ofList d.type = "Vtx" → (vertices? d.body).isSome) ∧
    (String.ofList d.type = "Lights1" → (light? d.body).isSome)

variable {a b : Assets} {type name : String} {body : List Char}

lemma isSome_of_integers {values : List Arg} {ns : List Int64} (h : integers values = .ok ns) :
    ∀ v ∈ values, v.int?.isSome := by
  intro v hv
  obtain ⟨n, -, hn⟩ := exists_of_forall₂ (mapM_eq_ok_iff.1 h) hv
  split at hn
  · next hv => rw [hv]; rfl
  · cases hn

lemma flatten_lineFeeds {values : List Arg} {ns : List Int64} (h : Source.flatten body = .ok values)
    (hn : integers values = .ok ns) : Source.flatten (lineFeeds body) = .ok values := by
  rw [Source.flatten] at h ⊢
  split at h
  · next found hf =>
    obtain rfl := Except.ok.inj h
    rw [Source.flattenFrom_lineFeeds 0 body hf (isSome_of_integers hn)]
  · cases h

lemma toOption_lineFeeds {α : Type} {read : List Arg → Except ParseError α} {v : α}
    (hread : ∀ values v, read values = .ok v → ∃ ns, integers values = .ok ns)
    (h : (Source.flatten body >>= read).toOption = some v) :
    (Source.flatten (lineFeeds body) >>= read).toOption = some v := by
  rw [toOption_eq_some_iff] at h ⊢
  obtain ⟨values, hvalues, hv⟩ := ok_of_bind h
  obtain ⟨ns, hn⟩ := hread values v hv
  rw [flatten_lineFeeds hvalues hn]
  exact hv

lemma vertices?_lineFeeds {vs : List Vertex} (h : vertices? body = some vs) :
    vertices? (lineFeeds body) = some vs := by
  refine toOption_lineFeeds (fun values vs hv => ?_) h
  rw [Vertex.listOfValues] at hv
  split at hv
  · obtain ⟨ns, hn, -⟩ := ok_of_bind hv
    exact ⟨ns, hn⟩
  · cases hv

lemma light?_lineFeeds {l : Light} (h : light? body = some l) :
    light? (lineFeeds body) = some l := by
  refine toOption_lineFeeds (fun values l hl => ?_) h
  obtain ⟨ns, hn, -⟩ := ok_of_bind hl
  exact ⟨ns, hn⟩

lemma bodyLines_lineFeeds (body : List Char) : bodyLines (lineFeeds body) = bodyLines body := by
  rw [bodyLines, Source.trimmedLines_lineFeeds, bodyLines]

lemma of_addDeclaration (h : a.addDeclaration type name body = .ok (some b)) :
    (type = "GeoLayout" ∧ b = { a with sources := a.sources.insert .layout name (bodyLines body) }) ∨
    (type = "Gfx" ∧ b = { a with sources := a.sources.insert .displayList name (bodyLines body) }) ∨
    (type = "Vtx" ∧ ∃ vs, vertices? body = some vs ∧
      b = { a with vertices := a.vertices.insert name vs }) ∨
    (type = "Lights1" ∧ ∃ l, light? body = some l ∧
      b = { a with lights := a.lights.insert name l }) := by
  unfold Assets.addDeclaration at h
  dsimp only at h
  split at h
  · cases h
    exact .inl ⟨rfl, rfl⟩
  · cases h
    exact .inr (.inl ⟨rfl, rfl⟩)
  · obtain ⟨t, ht, h⟩ := ok_of_bind h
    obtain ⟨values, hvalues, ht⟩ := ok_of_bind ht
    obtain ⟨vs, hvs, ht⟩ := ok_of_bind ht
    cases ht
    cases h
    refine .inr (.inr (.inl ⟨rfl, vs, ?_, rfl⟩))
    rw [vertices?, hvalues]
    exact toOption_eq_some_iff.2 hvs
  · obtain ⟨t, ht, h⟩ := ok_of_bind h
    obtain ⟨values, hvalues, ht⟩ := ok_of_bind ht
    obtain ⟨l, hl, ht⟩ := ok_of_bind ht
    cases ht
    cases h
    refine .inr (.inr (.inr ⟨rfl, l, ?_, rfl⟩))
    rw [light?, hvalues]
    exact toOption_eq_some_iff.2 hl
  · cases h

lemma addDeclaration_of_not_mem (h : type ∉ indexedTypes) :
    a.addDeclaration type name body = .ok none := by
  simp only [indexedTypes, List.mem_cons, List.not_mem_nil, or_false, not_or] at h
  rw [Assets.addDeclaration]
  exacts [h.1, h.2.1, h.2.2.1, h.2.2.2]

lemma exists_addDeclaration (h : type ∈ indexedTypes) (hv : type = "Vtx" → (vertices? body).isSome)
    (hl : type = "Lights1" → (light? body).isSome) :
    ∃ b, a.addDeclaration type name body = .ok (some b) := by
  simp only [indexedTypes, List.mem_cons, List.not_mem_nil, or_false] at h
  rcases h with rfl | rfl | rfl | rfl
  · exact ⟨_, rfl⟩
  · exact ⟨_, rfl⟩
  · obtain ⟨vs, hvs⟩ := Option.isSome_iff_exists.1 (hv rfl)
    obtain ⟨values, hvalues, hvs⟩ := ok_of_bind (toOption_eq_some_iff.1 hvs)
    refine ⟨{ a with vertices := a.vertices.insert name vs }, ?_⟩
    simp only [Assets.addDeclaration, VertexTable.insertInitializer, hvalues, hvs, bind,
      Except.bind]
    rfl
  · obtain ⟨l, hlight⟩ := Option.isSome_iff_exists.1 (hl rfl)
    obtain ⟨values, hvalues, hlight⟩ := ok_of_bind (toOption_eq_some_iff.1 hlight)
    refine ⟨{ a with lights := a.lights.insert name l }, ?_⟩
    simp only [Assets.addDeclaration, LightTable.insertInitializer, hvalues, hlight, bind,
      Except.bind]
    rfl

inductive Adds : Assets → List Definition → Assets → Prop
  | nil (a : Assets) : Adds a [] a
  | pass {a b : Assets} {d : Definition} {ds : List Definition} :
      String.ofList d.type ∉ indexedTypes → Adds a ds b → Adds a (d :: ds) b
  | add {a a' b : Assets} {d : Definition} {ds : List Definition} :
      a.addDeclaration (.ofList d.type) (.ofList d.name) (lineFeeds d.body) = .ok (some a') →
      Adds a' ds b → Adds a (d :: ds) b

lemma exists_adds {type : Source.Declaration → List Char} {ds : List Definition}
    (ht : ∀ d ∈ ds, type d.declaration = d.type) (hd : ∀ d ∈ ds, Decodes d) (a : Assets)
    (count : Nat) :
    ∃ b, Assets.addAs type (ds.map Definition.declaration) a count =
        (b, .ok (count + ds.countP fun d => .ofList d.type ∈ indexedTypes)) ∧ Adds a ds b := by
  induction ds generalizing a count with
  | nil => exact ⟨a, rfl, .nil a⟩
  | cons d ds ih =>
    rw [List.forall_mem_cons] at ht hd
    rw [List.map_cons, Assets.addAs, ht.1, List.countP_cons]
    dsimp only [Definition.declaration]
    by_cases hi : String.ofList d.type ∈ indexedTypes
    · have hvs (h : String.ofList d.type = "Vtx") : (vertices? (lineFeeds d.body)).isSome := by
        obtain ⟨vs, hvs⟩ := Option.isSome_iff_exists.1 (hd.1.1 h)
        rw [vertices?_lineFeeds hvs]
        rfl
      have hl (h : String.ofList d.type = "Lights1") : (light? (lineFeeds d.body)).isSome := by
        obtain ⟨l, hl⟩ := Option.isSome_iff_exists.1 (hd.1.2 h)
        rw [light?_lineFeeds hl]
        rfl
      obtain ⟨a', ha⟩ : ∃ a', a.addDeclaration (.ofList d.type) (.ofList d.name)
          (lineFeeds d.body) = .ok (some a') := exists_addDeclaration hi hvs hl
      obtain ⟨b, hb, adds⟩ := ih ht.2 hd.2 a' (count + 1)
      refine ⟨b, ?_, .add ha adds⟩
      rw [ha]
      dsimp only
      rw [hb, if_pos (by simpa using hi), Nat.add_right_comm, Nat.add_assoc]
    · obtain ⟨b, hb, adds⟩ := ih ht.2 hd.2 a count
      refine ⟨b, ?_, .pass hi adds⟩
      rw [addDeclaration_of_not_mem hi]
      dsimp only
      rw [hb, if_neg (by simpa using hi), Nat.add_zero]

namespace Table

variable {α : Type} {k : Table α} {ds : List Definition}

structure Reads (k : Table α) : Prop where
  indexed : k.type ∈ indexedTypes
  own : ∀ {a b : Assets} {name : String} {body : List Char},
    a.addDeclaration k.type name body = .ok (some b) →
      ∃ v, k.value? body = some v ∧ k.entries b = (k.entries a).insert name v
  other : ∀ {a b : Assets} {type name : String} {body : List Char}, type ≠ k.type →
    a.addDeclaration type name body = .ok (some b) → k.entries b = k.entries a

lemma reads_layouts : layouts.Reads where
  indexed := by decide
  own h := by
    rcases of_addDeclaration h with ⟨ht, rfl⟩ | ⟨ht, rfl⟩ | ⟨ht, v, hv, rfl⟩ | ⟨ht, v, hv, rfl⟩
    all_goals first | exact absurd ht (by decide) | exact ⟨_, rfl, rfl⟩
  other hn h := by
    rcases of_addDeclaration h with ⟨rfl, rfl⟩ | ⟨rfl, rfl⟩ | ⟨rfl, _, -, rfl⟩ | ⟨rfl, _, -, rfl⟩
    all_goals first | exact absurd rfl hn | rfl

lemma reads_displayLists : displayLists.Reads where
  indexed := by decide
  own h := by
    rcases of_addDeclaration h with ⟨ht, rfl⟩ | ⟨ht, rfl⟩ | ⟨ht, v, hv, rfl⟩ | ⟨ht, v, hv, rfl⟩
    all_goals first | exact absurd ht (by decide) | exact ⟨_, rfl, rfl⟩
  other hn h := by
    rcases of_addDeclaration h with ⟨rfl, rfl⟩ | ⟨rfl, rfl⟩ | ⟨rfl, _, -, rfl⟩ | ⟨rfl, _, -, rfl⟩
    all_goals first | exact absurd rfl hn | rfl

lemma reads_vertices : vertices.Reads where
  indexed := by decide
  own h := by
    rcases of_addDeclaration h with ⟨ht, rfl⟩ | ⟨ht, rfl⟩ | ⟨ht, v, hv, rfl⟩ | ⟨ht, v, hv, rfl⟩
    all_goals first | exact absurd ht (by decide) | exact ⟨v, hv, rfl⟩
  other hn h := by
    rcases of_addDeclaration h with ⟨rfl, rfl⟩ | ⟨rfl, rfl⟩ | ⟨rfl, _, -, rfl⟩ | ⟨rfl, _, -, rfl⟩
    all_goals first | exact absurd rfl hn | rfl

lemma reads_lights : lights.Reads where
  indexed := by decide
  own h := by
    rcases of_addDeclaration h with ⟨ht, rfl⟩ | ⟨ht, rfl⟩ | ⟨ht, v, hv, rfl⟩ | ⟨ht, v, hv, rfl⟩
    all_goals first | exact absurd ht (by decide) | exact ⟨v, hv, rfl⟩
  other hn h := by
    rcases of_addDeclaration h with ⟨rfl, rfl⟩ | ⟨rfl, rfl⟩ | ⟨rfl, _, -, rfl⟩ | ⟨rfl, _, -, rfl⟩
    all_goals first | exact absurd rfl hn | rfl

lemma Reads.find?_of_adds (hk : k.Reads) {a b : Assets} (h : Adds a ds b)
    (hnames : ds.Pairwise (·.name ≠ ·.name)) (name : String) (v : α) :
    (k.entries b).find? name = some v ↔
      (∃ d ∈ ds, String.ofList d.type = k.type ∧ .ofList d.name = name ∧
        k.value? (lineFeeds d.body) = some v) ∨
      (∀ d ∈ ds, String.ofList d.type = k.type → .ofList d.name ≠ name) ∧
        (k.entries a).find? name = some v := by
  induction h with
  | nil a => simp
  | pass hp _ ih =>
    have apart : String.ofList _ ≠ k.type := fun he => hp (he ▸ hk.indexed)
    rw [List.pairwise_cons] at hnames
    simp [ih hnames.2, apart]
  | @add _ _ _ d ds ha _ ih =>
    rw [List.pairwise_cons] at hnames
    rw [ih hnames.2]
    by_cases own : String.ofList d.type = k.type
    · rw [own] at ha
      obtain ⟨w, hw, entries⟩ := hk.own ha
      rw [entries, KeyMap.find?_insert]
      by_cases hname : String.ofList d.name = name
      · have later : ∀ e ∈ ds, String.ofList e.name ≠ name := fun e he hn =>
          hnames.1 e he (String.ofList_injective (hname.trans hn.symm))
        rw [if_pos hname]
        constructor
        · rintro (⟨e, he, -, hn, -⟩ | ⟨-, hv⟩)
          · exact absurd hn (later e he)
          · obtain rfl := Option.some.inj hv
            exact .inl ⟨d, List.mem_cons_self, own, hname, hw⟩
        · rintro (⟨e, he, -, hn, hv⟩ | ⟨hd, -⟩)
          · rcases List.mem_cons.1 he with rfl | he
            · exact .inr ⟨fun e he _ => later e he, hw.symm.trans hv⟩
            · exact absurd hn (later e he)
          · exact absurd hname (hd d List.mem_cons_self own)
      · simp [own, hname]
    · rw [hk.other own ha]
      simp [own]

lemma Reads.holds (hk : k.Reads) {a : Assets} (h : Adds {} ds a)
    (hnames : ds.Pairwise (·.name ≠ ·.name)) (hempty : k.entries {} = ∅)
    (hvalue : ∀ d ∈ ds, String.ofList d.type = k.type →
      k.value? (lineFeeds d.body) = k.value? d.body) : k.Holds ds a := by
  intro name v
  rw [hk.find?_of_adds h hnames, hempty, KeyMap.find?_empty]
  constructor
  · rintro (⟨d, hd, ht, hn, hv⟩ | ⟨-, hv⟩)
    · exact ⟨d, hd, ht, hn, hvalue d hd ht ▸ hv⟩
    · cases hv
  · rintro ⟨d, hd, ht, hn, hv⟩
    exact .inl ⟨d, hd, ht, hn, (hvalue d hd ht).trans hv⟩

end Table

lemma rest_of_adds {a b : Assets} {ds : List Definition} (h : Adds a ds b) :
    b.textures = a.textures ∧ b.animations = a.animations ∧ b.models = a.models := by
  induction h with
  | nil a => exact ⟨rfl, rfl, rfl⟩
  | pass _ _ ih => exact ih
  | add ha _ ih =>
    rcases of_addDeclaration ha with ⟨-, rfl⟩ | ⟨-, rfl⟩ | ⟨-, _, -, rfl⟩ | ⟨-, _, -, rfl⟩
    all_goals exact ih

/--
From a file of definitions under different names exactly those of the four types are added, each
under its name to the table of its type: the lines of its body, or the value of its initializer.
-/
theorem indexFile_definitions {ds : List Definition} {tail : List Char}
    (hnames : (ds.map (·.name)).Nodup) (hdecodes : ∀ d ∈ ds, Decodes d)
    (htail : Text.allBlank tail = true) :
    ∃ a, Assets.indexFile {} (.ofList (fileChars ds tail)) =
        (a, .ok (ds.countP fun d => .ofList d.type ∈ indexedTypes)) ∧
      Table.layouts.Holds ds a ∧ Table.displayLists.Holds ds a ∧
      Table.vertices.Holds ds a ∧ Table.lights.Holds ds a ∧
      a.textures = ∅ ∧ a.animations = ∅ ∧ a.models = ∅ := by
  let text := Source.keepVersion (fileChars ds tail)
  have distinct : ds.Pairwise (·.name ≠ ·.name) := List.pairwise_map.1 hnames
  have declared : Source.declared text = ds.map Definition.declaration :=
    Source.declared_keepVersion_file htail
  have stored : Source.stored text = ds.map Definition.declaration := by
    rw [Source.stored, declared]
    refine Source.foldl_store_of_nodup ?_
    rwa [List.map_map]
  let type (e : Source.Declaration) : List Char := (Source.headType? e.head).getD []
  have htype (d : Definition) : type d.declaration = d.type := by
    rw [show type d.declaration = (Source.headType? d.declaration.head).getD [] from rfl,
      d.headType?_declaration, Option.getD_some]
  have types : ∀ e ∈ ds.map Definition.declaration,
      Source.declaredType? text e.name = some (type e) := by
    rw [List.forall_mem_map]
    intro d hd
    rw [htype]
    exact Source.declaredType?_eq_of_typed (declared ▸ List.mem_map_of_mem hd) d.typed_declaration
      (Source.uniform_file htail hnames hd)
  obtain ⟨a, ha, adds⟩ := exists_adds (fun d _ => htype d) hdecodes {} 0
  refine ⟨a, ?_, ?_, ?_, ?_, ?_, rest_of_adds adds⟩
  · rw [Assets.indexFile, String.toList_ofList, Source.declarations_eq_map_stored, stored,
      Assets.addDeclarations_eq_addAs types, ha, Nat.zero_add]
  · exact Table.reads_layouts.holds adds distinct rfl fun d _ _ =>
      congrArg some (bodyLines_lineFeeds d.body)
  · exact Table.reads_displayLists.holds adds distinct rfl fun d _ _ =>
      congrArg some (bodyLines_lineFeeds d.body)
  · refine Table.reads_vertices.holds adds distinct rfl fun d hd ht => ?_
    obtain ⟨vs, hvs⟩ := Option.isSome_iff_exists.1 ((hdecodes d hd).1 ht)
    exact (vertices?_lineFeeds hvs).trans hvs.symm
  · refine Table.reads_lights.holds adds distinct rfl fun d hd ht => ?_
    obtain ⟨l, hl⟩ := Option.isSome_iff_exists.1 ((hdecodes d hd).2 ht)
    exact (light?_lineFeeds hl).trans hl.symm

def pier : Definition where
  gap := "\n".toList
  type := "Gfx".toList
  name := "pier_dl".toList
  body := "\r\n  gsSP1Triangle(0, 1, 2, 0), \n\n gsSPEndDisplayList(),".toList

def dusk : Definition where
  gap := "\t".toList
  type := "Lights1".toList
  name := "dusk".toList
  body := "gdSPDefLights0(1,\r\n 2, 0x3)".toList

def sand : Definition where
  gap := " \n".toList
  type := "u8".toList
  name := "sand".toList
  body := "= \x7b( 1,".toList

theorem indexFile_definitions_pier :
    ∃ a, Assets.indexFile {} (.ofList (fileChars [dusk, sand, pier] ['\n'])) = (a, .ok 2) ∧
      a.lights.find? "dusk" = some ⟨⟨1, 2, 3⟩, []⟩ ∧
      a.sources.displayLists.find? "pier_dl" =
        some ["gsSP1Triangle(0, 1, 2, 0),", "gsSPEndDisplayList(),"] ∧
      a.sources.displayLists.find? "sand" = none := by
  have decodes : ∀ d ∈ [dusk, sand, pier], Decodes d := by
    unfold Decodes
    decide +kernel
  have names : ([dusk, sand, pier].map (·.name)).Nodup := by decide
  have tail : Text.allBlank ['\n'] = true := by decide
  obtain ⟨a, h, -, lists, -, lights, -⟩ := indexFile_definitions names decodes tail
  refine ⟨a, h, (lights _ _).2 ⟨dusk, by simp, by decide +kernel⟩,
    (lists _ _).2 ⟨pier, by simp, by decide +kernel⟩, ?_⟩
  rw [Option.eq_none_iff_forall_ne_some]
  intro v hv
  obtain ⟨d, hd, ht, hn, -⟩ := (lists _ _).1 hv
  have apart : ∀ d ∈ [dusk, sand, pier],
      String.ofList d.type = "Gfx" → String.ofList d.name ≠ "sand" := by
    decide +kernel
  exact apart d hd ht hn

end SceneDraw.Scene
