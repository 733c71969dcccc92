/-! # Blank characters

Selectors, arguments and attribute texts are cut at blanks. A blank is a character with the
Unicode property White_Space: the six ASCII ones, and nineteen more that core's
`Char.isWhitespace` does not know. Trimming takes blanks off both ends and nothing else. -/
namespace GraphSelect.Text

/-- The characters with the property White_Space. -/
def isBlank (c : Char) : Bool :=
  let n := c.toNat
  (0x09 ≤ n && n ≤ 0x0d) || n == 0x20 || n == 0x85 || n == 0xa0 || n == 0x1680 ||
    (0x2000 ≤ n && n ≤ 0x200a) || n == 0x2028 || n == 0x2029 || n == 0x202f ||
    n == 0x205f || n == 0x3000

def skipBlanks (s : List Char) : List Char := s.dropWhile isBlank

def trimEnd (s : List Char) : List Char := (s.reverse.dropWhile isBlank).reverse

/-- A text without the blanks at its two ends. -/
def trim (s : List Char) : List Char := trimEnd (skipBlanks s)

def trimString (s : String) : String := String.ofList (trim s.toList)

@[simp] theorem skipBlanks_nil : skipBlanks [] = [] := rfl

theorem length_skipBlanks_le (s : List Char) : (skipBlanks s).length ≤ s.length :=
  (List.dropWhile_suffix isBlank).length_le

end GraphSelect.Text
