import SceneDraw.Text.Split

namespace SceneDraw.Source

def versionSymbol : List Char := "VERSION_US".toList

/-- A line that starts, turns or ends a block; `wanted` says whether its first part is kept. -/
inductive Directive
  | open (wanted : Bool)
  | turn
  | close
  deriving DecidableEq, Repr

namespace Directive

def ofLine? (line : List Char) : Option Directive :=
  let s := Text.trimStart line
  match Text.afterPrefix? "#ifdef".toList s with
  | some rest => some (.open (Text.trim rest == versionSymbol))
  | none =>
    match Text.afterPrefix? "#ifndef".toList s with
    | some rest => some (.open (Text.trim rest != versionSymbol))
    | none =>
      if "#else".toList.isPrefixOf s then some .turn
      else if "#endif".toList.isPrefixOf s then some .close
      else none

end Directive

structure Block where
  wanted : Bool
  outer : Bool
  deriving DecidableEq, Repr

def selectFrom : List Block → Bool → List (List Char) → List (List Char)
  | _, _, [] => []
  | blocks, active, line :: lines =>
    match Directive.ofLine? line with
    | some (.open wanted) => selectFrom (⟨wanted, active⟩ :: blocks) (active && wanted) lines
    | some .turn =>
      match blocks with
      | [] => selectFrom [] active lines
      | b :: blocks => selectFrom (⟨!b.wanted, b.outer⟩ :: blocks) (b.outer && !b.wanted) lines
    | some .close =>
      match blocks with
      | [] => selectFrom [] active lines
      | b :: blocks => selectFrom blocks b.outer lines
    | none =>
      if active then line :: selectFrom blocks active lines else selectFrom blocks active lines

def keepVersion (s : List Char) : List Char :=
  Text.joinLines (selectFrom [] true (Text.lines s))

end SceneDraw.Source
