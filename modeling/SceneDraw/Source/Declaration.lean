import SceneDraw.Source.Comment
import SceneDraw.Text.Split

namespace SceneDraw.Source

def isIdentifierChar (c : Char) : Bool :=
  ('a' ≤ c && c ≤ 'z') || ('A' ≤ c && c ≤ 'Z') || ('0' ≤ c && c ≤ '9') || c == '_'

def isIdentifier : List Char → Bool
  | [] => false
  | c :: s => !('0' ≤ c && c ≤ '9') && (c :: s).all isIdentifierChar

def dropDimension (head : List Char) : List Char :=
  let head := Text.trim head
  let head := Text.trimEnd ((Text.beforeSuffix? "[]".toList head).getD head)
  if head.getLast? = some ']' then
    match Text.cutLast '[' head with
    | some (before, _) => Text.trimEnd before
    | none => head
  else head

def declaredName? (head : List Char) : Option (List Char) :=
  let name :=
    ((dropDimension head).reverse.takeWhile fun c => !(Text.isBlank c || c == '*')).reverse
  if isIdentifier name then some name else none

def readDeclaration? (text : List Char) : Option (List Char × List Char × List Char) := do
  let (head, body) ← Text.cut '=' text
  let name ← declaredName? head
  some (name, head, body)

def insideBraces (body : List Char) : List Char :=
  let body := Text.trim body
  match Text.cut '\x7b' body with
  | none => body
  | some (_, rest) =>
    match Text.cutLast '\x7d' rest with
    | none => body
    | some (inner, _) => inner

def define (name body : List Char) :
    List (List Char × List Char) → List (List Char × List Char)
  | [] => [(name, body)]
  | d :: ds => if d.1 = name then (name, body) :: ds else d :: define name body ds

def declarations (s : List Char) : List (List Char × List Char) :=
  ((Text.split ';' (stripComments s)).filterMap readDeclaration?).foldl
    (fun ds d => define d.1 (insideBraces d.2.2) ds) []

def headType? (head : List Char) : Option (List Char) :=
  match (Text.words head).reverse with
  | _ :: type :: _ => some type
  | _ => none

def declaredType? (s name : List Char) : Option (List Char) :=
  (Text.split ';' (stripComments s)).findSome? fun text => do
    let (declared, head, _) ← readDeclaration? text
    if declared = name then headType? head else none

end SceneDraw.Source
