import SceneDraw.Number.Digits

/-!
JSON strings. What is written between the quotes is characters and UTF-16 units; a string has a
value if the units make up whole characters.
-/

namespace SceneDraw.Json

inductive Piece
  | char (c : Char)
  | unit (n : Nat)

def unescape? (c : Char) : Option Char :=
  match c with
  | '"' => some '"'
  | '\\' => some '\\'
  | '/' => some '/'
  | 'b' => some '\x08'
  | 'f' => some '\x0c'
  | 'n' => some '\n'
  | 'r' => some '\r'
  | 't' => some '\t'
  | _ => none

def isHighUnit (n : Nat) : Bool := 0xd800 ≤ n && n ≤ 0xdbff

def isLowUnit (n : Nat) : Bool := 0xdc00 ≤ n && n ≤ 0xdfff

def pairChar? (high low : Nat) : Option Char :=
  if isHighUnit high && isLowUnit low then
    some (.ofNat (0x10000 + (high - 0xd800) * 0x400 + (low - 0xdc00)))
  else none

def rawString : List Char → Option (List Char × List Char)
  | [] => none
  | '"' :: s => some ([], s)
  | '\\' :: c :: s => (rawString s).map fun (t, rest) => ('\\' :: c :: t, rest)
  | c :: s => (rawString s).map fun (t, rest) => (c :: t, rest)

theorem length_lt_of_rawString {s t rest : List Char} (h : rawString s = some (t, rest)) :
    rest.length < s.length := by
  fun_induction rawString s generalizing t rest with
  | case1 => simp at h
  | case2 s => grind
  | case3 c s ih =>
    obtain ⟨⟨u, r⟩, hr, he⟩ := Option.map_eq_some_iff.1 h
    obtain ⟨-, rfl⟩ := Prod.mk.inj he
    have := ih hr
    simp only [List.length_cons]
    omega
  | case4 c s _ _ ih =>
    obtain ⟨⟨u, r⟩, hr, he⟩ := Option.map_eq_some_iff.1 h
    obtain ⟨-, rfl⟩ := Prod.mk.inj he
    have := ih hr
    simp only [List.length_cons]
    omega

def pieces? : List Char → Option (List Piece)
  | [] => some []
  | '\\' :: 'u' :: a :: b :: c :: d :: s => do
    return .unit (← Number.readHex [a, b, c, d]) :: (← pieces? s)
  | '\\' :: c :: s => return .char (← unescape? c) :: (← pieces? s)
  | c :: s => if c.toNat < 0x20 || c == '\\' then none else return .char c :: (← pieces? s)

def join? : List Piece → Option (List Char)
  | [] => some []
  | .char c :: ps => return c :: (← join? ps)
  | .unit high :: .unit low :: ps =>
    if isHighUnit high then return (← pairChar? high low) :: (← join? ps)
    else if isLowUnit high then none
    else return .ofNat high :: (← join? (.unit low :: ps))
  | .unit n :: ps =>
    if isHighUnit n || isLowUnit n then none else return .ofNat n :: (← join? ps)

end SceneDraw.Json
