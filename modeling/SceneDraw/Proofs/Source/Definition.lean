import Mathlib.Data.List.Nodup
import SceneDraw.Proofs.Source.Declaration
import SceneDraw.Proofs.Source.LineFeed

namespace SceneDraw.Source

/-- A definition `static const type name[] = {body};` after some blanks. -/
structure Definition where
  gap : List Char
  type : List Char
  name : List Char
  body : List Char
  allBlank_gap : Text.allBlank gap = true := by decide
  isIdentifier_type : isIdentifier type = true := by decide
  isIdentifier_name : isIdentifier name = true := by decide
  unended_body : ';' ∉ body := by decide
  uncommented_body : Uncommented body := by decide
  undirected_body : Undirected body := by decide

namespace Definition

variable (d : Definition)

def keywords : List Char := "static const".toList

def front : List Char := keywords ++ ' ' :: (d.type ++ ' ' :: d.name)

def text : List Char :=
  d.gap ++ (d.front ++ (['[', ']', ' ', '=', ' ', '\x7b'] ++ (d.body ++ ['\x7d'])))

def chars : List Char := d.text ++ [';']

def declaration : Declaration where
  name := d.name
  head := lineFeeds d.gap ++ (d.front ++ ['[', ']']) ++ [' ']
  body := lineFeeds d.body

lemma typed_declaration : d.declaration.Typed d.type :=
  ⟨lineFeeds d.gap ++ keywords ++ [' '], [' '], [], ['[', ']'], [' '],
    by simp [declaration, front], by simp; rfl, isWord_of_isIdentifier d.isIdentifier_type,
    List.cons_ne_nil _ _, rfl, rfl, rfl, rfl⟩

lemma headType?_declaration : headType? d.declaration.head = some d.type :=
  d.typed_declaration.headType?_eq (isWord_of_isIdentifier d.isIdentifier_name)

lemma exists_front : ∃ init last, d.front = init ++ [last] ∧ isIdentifierChar last = true := by
  obtain ⟨init, last, hname, hlast⟩ := exists_of_isIdentifier d.isIdentifier_name
  exact ⟨keywords ++ ' ' :: (d.type ++ ' ' :: init), last, by simp [front, hname], hlast⟩

lemma trim_head : Text.trim d.declaration.head = d.front ++ ['[', ']'] := by
  have start : Text.trimStart (d.front ++ ['[', ']']) = d.front ++ ['[', ']'] := rfl
  rw [declaration, Text.trim_pad (allBlank_lineFeeds d.allBlank_gap) rfl, Text.trim, start]
  exact (List.append_assoc d.front ['['] [']']) ▸ Text.trimEnd_concat_of_not rfl (d.front ++ ['['])

lemma dropDimension_head : dropDimension d.declaration.head = d.front := by
  obtain ⟨init, last, front, hlast⟩ := d.exists_front
  have blank := not_isBlank_of_isIdentifierChar hlast
  have suffix : Text.beforeSuffix? "[]".toList (d.front ++ ['[', ']']) = some d.front := by
    simp [Text.beforeSuffix?, List.isSuffixOf?, List.isPrefixOf?]
  have whole : Text.trimEnd d.front = d.front := by
    rw [front, Text.trimEnd_concat_of_not blank]
  have undimensioned : d.front.getLast? ≠ some ']' := by
    rw [front, List.getLast?_concat]
    rintro ⟨⟩
    cases hlast
  rw [dropDimension, d.trim_head, suffix]
  simp only [Option.getD_some, whole, if_neg undimensioned]

lemma declaredName?_head : declaredName? d.declaration.head = some d.name := by
  have name : (d.front.reverse.takeWhile fun c => !(Text.isBlank c || c == '*')).reverse =
      d.name := by
    have word : ∀ c ∈ d.name.reverse, (!(Text.isBlank c || c == '*')) = true := by
      intro c hc
      have identifier := isIdentifierChar_of_mem d.isIdentifier_name (List.mem_reverse.1 hc)
      have star : c ≠ '*' := by
        rintro rfl
        cases identifier
      simp [not_isBlank_of_isIdentifierChar identifier, star]
    have reversed : d.front.reverse =
        d.name.reverse ++ ' ' :: (d.type.reverse ++ ' ' :: keywords.reverse) := by
      simp [front]
    rw [reversed, List.takeWhile_append_of_pos word, List.takeWhile_cons_of_neg (by decide),
      List.append_nil, List.reverse_reverse]
  rw [declaredName?, d.dropDimension_head, name]
  exact if_pos d.isIdentifier_name

lemma insideBraces_braces (body : List Char) :
    insideBraces (' ' :: '\x7b' :: (body ++ ['\x7d'])) = body := by
  have trimmed : Text.trim (' ' :: '\x7b' :: (body ++ ['\x7d'])) = '\x7b' :: (body ++ ['\x7d']) :=
    Text.trimEnd_concat_of_not (c := '\x7d') rfl ('\x7b' :: body)
  have last : Text.cutLast '\x7d' (body ++ ['\x7d']) = some (body, []) := by
    simp [Text.cutLast, Text.cut]
  rw [insideBraces, trimmed]
  simp [Text.cut, last]

lemma not_mem_front {c : Char} (h : c ≠ ' ') (hc : isIdentifierChar c = false) : c ∉ d.front := by
  have type := not_mem_of_isIdentifier d.isIdentifier_type hc
  have name := not_mem_of_isIdentifier d.isIdentifier_name hc
  have keyword : c ∉ keywords := by
    intro hm
    have all : keywords.all (fun c => c == ' ' || isIdentifierChar c) = true := by decide
    simpa [h, hc] using List.all_eq_true.1 all c hm
  simp [front, keyword, h, type, name]

lemma not_mem_opening {c : Char} {gap rest : List Char} (hg : Text.allBlank gap = true)
    (hb : Text.isBlank c = false) (hc : isIdentifierChar c = false) (hr : c ∉ rest) :
    c ∉ gap ++ (d.front ++ rest) := by
  have space : c ≠ ' ' := Ne.symm (Text.ne_of_isBlank rfl hb)
  rw [List.mem_append, List.mem_append, not_or, not_or]
  exact ⟨Text.not_mem_of_allBlank hg hb, d.not_mem_front space hc, hr⟩

lemma lineFeeds_text :
    lineFeeds d.text =
      d.declaration.head ++ '=' :: ' ' :: '\x7b' :: (lineFeeds d.body ++ ['\x7d']) := by
  have start (s : List Char) : (d.front ++ s).head? = some 's' := rfl
  rw [text, lineFeeds_append (by rw [start]; decide),
    lineFeeds_append_of_not_mem (d.not_mem_front (by decide) rfl),
    lineFeeds_append_of_not_mem (by decide), lineFeeds_append (by simp),
    lineFeeds_of_not_mem (s := ['\x7d']) (by decide)]
  simp [declaration]

lemma read?_lineFeeds : Declaration.read? (lineFeeds d.text) = some d.declaration := by
  refine Declaration.read?_eq_some_iff.2
    ⟨' ' :: '\x7b' :: (lineFeeds d.body ++ ['\x7d']), ?_, d.declaredName?_head,
      (insideBraces_braces _).symm⟩
  rw [lineFeeds_text]
  refine Text.cut_append_cons ?_ _
  rw [declaration, List.append_assoc, List.append_assoc]
  exact d.not_mem_opening (allBlank_lineFeeds d.allBlank_gap) rfl rfl (by decide)

lemma unended_text : ';' ∉ d.text :=
  d.not_mem_opening d.allBlank_gap rfl rfl (by simp [d.unended_body])

lemma uncommented_text : Uncommented d.text := by
  have head : '/' ∉ d.gap ++ (d.front ++ ['[', ']', ' ', '=', ' ']) :=
    d.not_mem_opening d.allBlank_gap rfl rfl (by decide)
  have body : Uncommented (d.body ++ ['\x7d']) :=
    (Uncommented.append_cons_iff (by decide) (by decide)).2 ⟨d.uncommented_body, .nil⟩
  have whole := (Uncommented.append_cons_iff (c := '\x7b') (by decide) (by decide)).2
    ⟨.of_not_mem head, body⟩
  simpa [text] using whole

lemma undirected_text : Undirected d.text := by
  have head : '#' ∉ d.gap ++ (d.front ++ ['[', ']', ' ', '=', ' ', '\x7b']) :=
    d.not_mem_opening d.allBlank_gap rfl rfl (by decide)
  have whole := (Undirected.of_not_mem head).append
    (d.undirected_body.append (.of_not_mem (s := ['\x7d']) (by decide)))
  simpa [text] using whole

end Definition

def fileChars (ds : List Definition) (tail : List Char) : List Char :=
  ds.flatMap Definition.chars ++ tail

variable {ds : List Definition} {tail : List Char}

lemma fileChars_cons (d : Definition) :
    fileChars (d :: ds) tail = d.text ++ ';' :: fileChars ds tail := by
  simp [fileChars, Definition.chars]

lemma uncommented_file (h : Text.allBlank tail = true) : Uncommented (fileChars ds tail) := by
  induction ds with
  | nil => exact .of_not_mem (Text.not_mem_of_allBlank h rfl)
  | cons d ds ih =>
    rw [fileChars_cons]
    exact (Uncommented.append_cons_iff (by decide) (by decide)).2 ⟨d.uncommented_text, ih⟩

lemma undirected_file (h : Text.allBlank tail = true) : Undirected (fileChars ds tail) := by
  induction ds with
  | nil => exact .of_not_mem (Text.not_mem_of_allBlank h rfl)
  | cons d ds ih =>
    rw [fileChars_cons]
    exact d.undirected_text.append ((Undirected.of_not_mem (s := [';']) (by decide)).append ih)

lemma readAll_lineFeeds_file (h : Text.allBlank tail = true) :
    Declaration.readAll (lineFeeds (fileChars ds tail)) = ds.map Definition.declaration := by
  induction ds with
  | nil =>
    have blank := allBlank_lineFeeds h
    have none : Text.trimEnd (lineFeeds tail) = Text.trimEnd [] :=
      List.rdropWhile_eq_nil_iff.2 (List.all_eq_true.1 blank)
    exact Text.eq_of_trimEnd_eq Declaration.readAll_concat none
  | cons d ds ih =>
    have unended : ';' ∉ lineFeeds d.text := fun hm => d.unended_text ((lineFeeds_sublist _).mem hm)
    rw [fileChars_cons, lineFeeds_append (by simp), ← List.singleton_append,
      lineFeeds_append_of_not_mem (by decide), List.singleton_append, Declaration.readAll,
      Text.split_eq_splitOn, List.splitOn_append_cons_self_of_not_mem unended, List.filterMap_cons,
      d.read?_lineFeeds, ← Text.split_eq_splitOn, List.map_cons, ← ih, Declaration.readAll]

lemma declared_keepVersion_file (h : Text.allBlank tail = true) :
    declared (keepVersion (fileChars ds tail)) = ds.map Definition.declaration := by
  have undirected : Undirected (fileChars ds tail) := undirected_file h
  have kept := CommentScan.trimEnd_strip .code (trimEnd_keepVersion_of_undirected undirected)
  rw [declared_congr kept, declared, stripComments,
    CommentScan.strip_of_uncommented (uncommented_lineFeeds (uncommented_file h)),
    readAll_lineFeeds_file h]

lemma uniform_file (h : Text.allBlank tail = true) (hnames : (ds.map (·.name)).Nodup)
    {d : Definition} (hd : d ∈ ds) : Uniform (keepVersion (fileChars ds tail)) d.name d.type := by
  intro e he hn t ht
  rw [declared_keepVersion_file h] at he
  obtain ⟨d', hd', rfl⟩ := List.mem_map.1 he
  obtain rfl := List.inj_on_of_nodup_map hnames hd' hd hn
  exact Option.some.inj (ht.symm.trans d'.headType?_declaration)

end SceneDraw.Source
