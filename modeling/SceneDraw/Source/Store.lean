import SceneDraw.Call.Error
import SceneDraw.KeyMap

namespace SceneDraw

inductive Namespace
  | layout
  | displayList
  deriving DecidableEq, Repr

def Namespace.label : Namespace → String
  | layout => "geo"
  | displayList => "gfx"

inductive SourceError
  | malformed (cause : ParseError)
  | undefined (space : Namespace) (name : String)
  deriving DecidableEq

def SourceError.message : SourceError → String
  | malformed cause => s!"parse error: {cause.message}"
  | undefined space name => s!"undefined {space.label} source: {name}"

abbrev Lookup := Namespace → String → Except SourceError (List String)

structure Sources where
  layouts : KeyMap String (List String) := ∅
  displayLists : KeyMap String (List String) := ∅
  deriving DecidableEq

namespace Sources

def table (s : Sources) : Namespace → KeyMap String (List String)
  | .layout => s.layouts
  | .displayList => s.displayLists

def insert (s : Sources) (space : Namespace) (name : String) (lines : List String) : Sources :=
  match space with
  | .layout => { s with layouts := s.layouts.insert name lines }
  | .displayList => { s with displayLists := s.displayLists.insert name lines }

def insertText (s : Sources) (space : Namespace) (name text : String) : Sources :=
  s.insert space name ((Text.trimmedLines text.toList).map .ofList)

def lookup (s : Sources) : Lookup := fun space name =>
  match (s.table space).find? name with
  | some lines => .ok lines
  | none => .error (.undefined space name)

def contains (s : Sources) (space : Namespace) (name : String) : Bool :=
  (s.table space).contains name

def names (s : Sources) (space : Namespace) : List String := (s.table space).keys

def size (s : Sources) : Nat := s.layouts.size + s.displayLists.size

end Sources

end SceneDraw
