namespace SceneDraw.Text

/-- The characters with the Unicode property `White_Space`. -/
def isBlank (c : Char) : Bool :=
  let n := c.toNat
  (0x09 ≤ n && n ≤ 0x0d) || n == 0x20 || n == 0x85 || n == 0xa0 || n == 0x1680 ||
    (0x2000 ≤ n && n ≤ 0x200a) || n == 0x2028 || n == 0x2029 || n == 0x202f || n == 0x205f ||
    n == 0x3000

def trimStart (s : List Char) : List Char := s.dropWhile isBlank

def trimEnd (s : List Char) : List Char := (s.reverse.dropWhile isBlank).reverse

def trim (s : List Char) : List Char := trimEnd (trimStart s)

theorem length_trim_le (s : List Char) : (trim s).length ≤ s.length := by
  have h₁ := (List.dropWhile_sublist isBlank (l := (trimStart s).reverse)).length_le
  have h₂ := (List.dropWhile_sublist isBlank (l := s)).length_le
  rw [List.length_reverse] at h₁
  rw [trim, trimEnd, List.length_reverse]
  exact Nat.le_trans h₁ h₂

def allBlank (s : List Char) : Bool := s.all isBlank

end SceneDraw.Text
