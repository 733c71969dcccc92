import GraphSelect.Unicode.Category
import GraphSelect.Unicode.Property
import GraphSelect.Unicode.Ranges

/-! # Quoted texts in messages

A message shows a text between quotation marks so that every character of it can be told from its
picture. Marks, backslashes and the common control characters have escapes of their own; what has
no picture, or changes the picture of the character before it, is shown by its number. -/
namespace GraphSelect.Text

open Unicode

def blankCategories : List Ranges :=
  ["cc", "cf", "cs", "co", "cn", "zl", "zp", "zs"].filterMap (findRow categories)

/-- Characters that join the picture of the character before them. -/
def extendsPicture : Option Ranges := findRow properties "grext"

/-- Whether a character is shown as it is. -/
def hasPicture (c : Char) : Bool :=
  if c.toNat < 0x7f then 0x20 ≤ c.toNat
  else !blankCategories.any (·.contains c) && !extendsPicture.any (·.contains c)

def quotedChar (c : Char) : String :=
  if c = '"' then "\\\""
  else if c = '\\' then "\\\\"
  else if c = '\x00' then "\\0"
  else if c = '\t' then "\\t"
  else if c = '\n' then "\\n"
  else if c = '\r' then "\\r"
  else if hasPicture c then String.ofList [c]
  else "\\u\x7b" ++ String.ofList (Nat.toDigits 16 c.toNat) ++ "\x7d"

def quoted (s : String) : String := "\"" ++ String.join (s.toList.map quotedChar) ++ "\""

end GraphSelect.Text
