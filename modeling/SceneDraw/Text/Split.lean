import SceneDraw.Text.Blank

namespace SceneDraw.Text

def splitWhere (p : Char → Bool) : List Char → List (List Char)
  | [] => [[]]
  | c :: s => if p c then [] :: splitWhere p s else (splitWhere p s).modifyHead (c :: ·)

def split (sep : Char) : List Char → List (List Char) := splitWhere (· == sep)

def cut (sep : Char) : List Char → Option (List Char × List Char)
  | [] => none
  | c :: s => if c = sep then some ([], s) else (cut sep s).map fun (a, b) => (c :: a, b)

def cutLast (sep : Char) (s : List Char) : Option (List Char × List Char) :=
  (cut sep s.reverse).map fun (a, b) => (b.reverse, a.reverse)

def words (s : List Char) : List (List Char) := (splitWhere isBlank s).filter (!·.isEmpty)

def lines : List Char → List (List Char)
  | [] => []
  | '\n' :: s => [] :: lines s
  | '\r' :: '\n' :: s => [] :: lines s
  | c :: s =>
    match lines s with
    | [] => [[c]]
    | l :: ls => (c :: l) :: ls

def joinLines : List (List Char) → List Char
  | [] => []
  | [l] => l
  | l :: ls => l ++ '\n' :: joinLines ls

def afterPrefix? (p s : List Char) : Option (List Char) := p.isPrefixOf? s

def beforeSuffix? (p s : List Char) : Option (List Char) := p.isSuffixOf? s

def trimmedLines (s : List Char) : List (List Char) := ((lines s).map trim).filter (!·.isEmpty)

end SceneDraw.Text
