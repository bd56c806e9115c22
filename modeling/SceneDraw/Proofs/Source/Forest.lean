import SceneDraw.Proofs.Source.Conditional
import SceneDraw.Proofs.Source.Declaration

/-! Conditional blocks inside each other, and the lines that are kept of them. -/

namespace SceneDraw.Source

structure Condition where
  symbol : List Char
  defined : Bool
  isIdentifier_symbol : isIdentifier symbol = true := by decide
  deriving DecidableEq

namespace Condition

def opposite (c : Condition) : Condition := { c with defined := !c.defined }

def holds (c : Condition) : Bool :=
  if c.defined then c.symbol == versionSymbol else c.symbol != versionSymbol

def opening (c : Condition) : List Char :=
  (if c.defined then "#ifdef " else "#ifndef ").toList ++ c.symbol

lemma holds_opposite (c : Condition) : c.opposite.holds = !c.holds := by
  cases hc : c.defined <;> simp [holds, opposite, hc, bne]

end Condition

structure PlainLine where
  text : List Char
  newline : '\n' ∉ text := by decide
  carriageReturn : '\r' ∉ text := by decide
  directive : ∀ word ∈ ["#ifdef", "#ifndef", "#else", "#endif"],
    ¬ word.toList <+: Text.trimStart text := by decide

/-- Plain lines and blocks in order; a fork is a block with a second part. -/
inductive Forest
  | nil
  | line (l : PlainLine) (rest : Forest)
  | block (c : Condition) (body rest : Forest)
  | fork (c : Condition) (body other rest : Forest)

namespace Forest

def lines : Forest → List (List Char)
  | nil => []
  | line l rest => l.text :: rest.lines
  | block c body rest => c.opening :: (body.lines ++ "#endif".toList :: rest.lines)
  | fork c body other rest =>
    c.opening :: (body.lines ++ "#else".toList :: (other.lines ++ "#endif".toList :: rest.lines))

def leaves (around : List Condition) : Forest → List (List Condition × List Char)
  | nil => []
  | line l rest => (around, l.text) :: rest.leaves around
  | block c body rest => body.leaves (c :: around) ++ rest.leaves around
  | fork c body other rest =>
    body.leaves (c :: around) ++ (other.leaves (c.opposite :: around) ++ rest.leaves around)

def kept (around : List Condition) (f : Forest) : List (List Char) :=
  ((f.leaves around).filter fun leaf => leaf.1.all Condition.holds).map (·.2)

lemma kept_line (around : List Condition) (l : PlainLine) (rest : Forest) :
    (line l rest).kept around =
      (if around.all Condition.holds then [l.text] else []) ++ rest.kept around := by
  cases ha : around.all Condition.holds <;> simp [kept, leaves, ha]

lemma kept_block (around : List Condition) (c : Condition) (body rest : Forest) :
    (block c body rest).kept around = body.kept (c :: around) ++ rest.kept around := by
  simp only [kept, leaves, List.filter_append, List.map_append]

lemma kept_fork (around : List Condition) (c : Condition) (body other rest : Forest) :
    (fork c body other rest).kept around =
      body.kept (c :: around) ++ (other.kept (c.opposite :: around) ++ rest.kept around) := by
  simp only [kept, leaves, List.filter_append, List.map_append]

end Forest

lemma Directive.ofLine?_opening (c : Condition) : ofLine? c.opening = some (.open c.holds) := by
  obtain ⟨symbol, defined, h⟩ := c
  have bare : Text.trim (' ' :: symbol) = symbol :=
    (Text.trim_blanks_append (List.forall_mem_singleton.2 rfl) symbol).trans
      (Text.trim_of_isWord (isWord_of_isIdentifier h))
  cases defined <;>
    simp [ofLine?, Condition.opening, Condition.holds, Text.trimStart, Text.isBlank,
      Text.afterPrefix?, List.isPrefixOf?, bare, bne]

lemma Directive.ofLine?_plainLine (l : PlainLine) : ofLine? l.text = none := by
  have apart (word : String) (hw : word ∈ ["#ifdef", "#ifndef", "#else", "#endif"]) :
      word.toList.isPrefixOf (Text.trimStart l.text) = false := by
    rw [Bool.eq_false_iff, ne_eq, List.isPrefixOf_iff_prefix]
    exact l.directive word hw
  have unopened (word : String) (hw : word ∈ ["#ifdef", "#ifndef", "#else", "#endif"]) :
      Text.afterPrefix? word.toList (Text.trimStart l.text) = none := by
    rw [← Option.not_isSome_iff_eq_none, Text.afterPrefix?, List.isSome_isPrefixOf?_eq_isPrefixOf,
      apart word hw]
    exact Bool.false_ne_true
  simp only [ofLine?, unopened "#ifdef" (by simp), unopened "#ifndef" (by simp),
    apart "#else" (by simp), apart "#endif" (by simp), Bool.false_eq_true, if_false]

section Steps

-- Between two directives the open blocks know what is kept around them, and text is kept while all
-- conditions around it hold.
variable (around : List Condition) (blocks : List Block) (ls : List (List Char))

lemma selectFrom_plainLine (l : PlainLine) :
    selectFrom blocks (around.all Condition.holds) (l.text :: ls) =
      (if around.all Condition.holds then [l.text] else []) ++
        selectFrom blocks (around.all Condition.holds) ls := by
  rw [selectFrom_cons, Directive.ofLine?_plainLine]

lemma selectFrom_opening (c : Condition) :
    selectFrom blocks (around.all Condition.holds) (c.opening :: ls) =
      selectFrom (⟨c.holds, around.all Condition.holds⟩ :: blocks)
        ((c :: around).all Condition.holds) ls := by
  rw [selectFrom_cons, Directive.ofLine?_opening, List.all_cons, Bool.and_comm]
  rfl

lemma selectFrom_else (c : Condition) (active : Bool) :
    selectFrom (⟨c.holds, around.all Condition.holds⟩ :: blocks) active ("#else".toList :: ls) =
      selectFrom (⟨c.opposite.holds, around.all Condition.holds⟩ :: blocks)
        ((c.opposite :: around).all Condition.holds) ls := by
  rw [selectFrom_cons, show Directive.ofLine? "#else".toList = some .turn from rfl, List.all_cons,
    Bool.and_comm, c.holds_opposite]
  rfl

lemma selectFrom_endif (wanted outer active : Bool) :
    selectFrom (⟨wanted, outer⟩ :: blocks) active ("#endif".toList :: ls) =
      selectFrom blocks outer ls := by
  rw [selectFrom_cons, show Directive.ofLine? "#endif".toList = some .close from rfl]
  rfl

end Steps

namespace Forest

lemma selectFrom_lines (f : Forest) (around : List Condition) (blocks : List Block)
    (ls : List (List Char)) :
    selectFrom blocks (around.all Condition.holds) (f.lines ++ ls) =
      f.kept around ++ selectFrom blocks (around.all Condition.holds) ls := by
  induction f generalizing around blocks ls with
  | nil => rfl
  | line l rest ih =>
    rw [lines, List.cons_append, selectFrom_plainLine, ih, kept_line, List.append_assoc]
  | block c body rest ihb ihr =>
    rw [lines, List.cons_append, selectFrom_opening, List.append_assoc, ihb, List.cons_append,
      selectFrom_endif, ihr, kept_block, List.append_assoc]
  | fork c body other rest ihb iho ihr =>
    rw [lines, List.cons_append, selectFrom_opening, List.append_assoc, ihb, List.cons_append,
      selectFrom_else, List.append_assoc, iho, List.cons_append, selectFrom_endif, ihr, kept_fork,
      List.append_assoc, List.append_assoc]

end Forest

lemma Condition.opening_separate (c : Condition) : '\n' ∉ c.opening ∧ '\r' ∉ c.opening := by
  have hn : '\n' ∉ c.symbol := not_mem_of_isIdentifier c.isIdentifier_symbol rfl
  have hr : '\r' ∉ c.symbol := not_mem_of_isIdentifier c.isIdentifier_symbol rfl
  cases hc : c.defined <;> simp [opening, hc, hn, hr]

lemma Forest.lines_separate (f : Forest) : ∀ l ∈ f.lines, '\n' ∉ l ∧ '\r' ∉ l := by
  induction f with
  | nil => exact nofun
  | line l rest ih => exact List.forall_mem_cons.2 ⟨⟨l.newline, l.carriageReturn⟩, ih⟩
  | block c body rest ihb ihr =>
    simp only [lines, List.forall_mem_cons, List.forall_mem_append]
    exact ⟨c.opening_separate, ihb, by simp, ihr⟩
  | fork c body other rest ihb iho ihr =>
    simp only [lines, List.forall_mem_cons, List.forall_mem_append]
    exact ⟨c.opening_separate, ihb, by simp, iho, by simp, ihr⟩

lemma lines_unlines {ls : List (List Char)} (h : ∀ l ∈ ls, '\n' ∉ l ∧ '\r' ∉ l) :
    Text.lines (unlines ls) = ls := by
  induction ls with
  | nil => rfl
  | cons l ls ih =>
    obtain ⟨⟨hn, hr⟩, hls⟩ := List.forall_mem_cons.1 h
    have whole : Text.dropReturn l = l := if_neg fun hl => hr (List.mem_of_getLast? hl)
    rw [← List.singleton_append, unlines_append, unlines_singleton, List.append_assoc,
      List.singleton_append, Text.lines_append_newline hn, whole, ih hls, List.singleton_append]

lemma joinLines_eq_intercalate (ls : List (List Char)) :
    Text.joinLines ls = ['\n'].intercalate ls := by
  induction ls with
  | nil => rfl
  | cons l ls ih =>
    cases ls with
    | nil => rw [List.intercalate_singleton]; rfl
    | cons m ls => rw [List.intercalate_cons_cons, ← ih]; simp [Text.joinLines]

theorem keepVersion_forest (f : Forest) :
    keepVersion (unlines f.lines) = ['\n'].intercalate (f.kept []) := by
  have selected : selectFrom [] true f.lines = f.kept [] := by
    simpa [selectFrom] using Forest.selectFrom_lines f [] [] []
  rw [keepVersion, lines_unlines f.lines_separate, selected, joinLines_eq_intercalate]

theorem keepVersion_forest_editions :
    let f : Forest :=
      .fork { symbol := "VERSION_EU".toList, defined := true }
        (.fork { symbol := "VERSION_US".toList, defined := true }
          (.line { text := "a".toList } .nil) (.line { text := "b".toList } .nil)
          (.line { text := "c".toList } .nil))
        (.block { symbol := "VERSION_US".toList, defined := false }
          (.line { text := "d".toList } .nil)
          (.fork { symbol := "VERSION_EU".toList, defined := false }
            (.line { text := " e".toList } .nil) (.line { text := "f".toList } .nil) .nil))
        (.line { text := [] } .nil)
    keepVersion (unlines f.lines) = " e\n".toList := by
  intro f
  exact (keepVersion_forest f).trans (by decide)

end SceneDraw.Source
