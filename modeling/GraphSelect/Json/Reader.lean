import GraphSelect.Json.Number

/-! # Reading JSON

A strict reader: one value with blanks around it and nothing else. Lists and records may be nested
to a fixed depth, so the reader of values is defined by recursion on the levels that are still
allowed. -/
namespace GraphSelect.Json

open Text

def isBlank (c : Char) : Bool := c = ' ' || c = '\n' || c = '\t' || c = '\r'

def blanks : Scan Unit Unit := do let _ ← Scan.takeWhile isBlank

def hex4 : Scan Unit Nat := do
  let digit : Scan Unit Nat := do
    match hexDigit? (← Scan.next ()) with
    | some n => return n
    | none => Scan.fail ()
  let a ← digit
  let b ← digit
  let c ← digit
  let d ← digit
  return ((a * 16 + b) * 16 + c) * 16 + d

/-- A character by its number. A number from the high surrogates joins with the next one, which
has to be from the low surrogates; a low one alone is refused. -/
def unicodeEscape : Scan Unit Char := do
  let n ← hex4
  if 0xdc00 ≤ n && n < 0xe000 then Scan.fail ()
  else if 0xd800 ≤ n && n < 0xdc00 then
    if ← Scan.eatAll ['\\', 'u'] then
      let m ← hex4
      if 0xdc00 ≤ m && m < 0xe000 then
        return Char.ofNat (0x10000 + (n - 0xd800) * 0x400 + (m - 0xdc00))
      else Scan.fail ()
    else Scan.fail ()
  else return Char.ofNat n

def escape : Scan Unit Char := do
  match ← Scan.next () with
  | '"' => return '"'
  | '\\' => return '\\'
  | '/' => return '/'
  | 'b' => return '\x08'
  | 'f' => return '\x0c'
  | 'n' => return '\n'
  | 'r' => return '\r'
  | 't' => return '\t'
  | 'u' => unicodeEscape
  | _ => Scan.fail ()

/-- The characters up to the closing quote, which is taken too. Control characters have to be
escaped. -/
def stringChars : Scan Unit (List Char) := Scan.many do
  match ← Scan.next () with
  | '"' => return none
  | '\\' => return some (← escape)
  | c => if c.toNat < 0x20 then Scan.fail () else return some c

def string : Scan Unit String := do return String.ofList (← stringChars)

/-- A possibly empty row of items, behind the opening bracket. -/
def row {α : Type} (item : Scan Unit α) (close : Char) : Scan Unit (List α) := do
  blanks
  if ← Scan.eat close then return [] else Scan.commaList () item close

def entry (value : Scan Unit Data) : Scan Unit (String × Data) := do
  blanks
  if !(← Scan.eat '"') then Scan.fail ()
  let name ← string
  blanks
  if !(← Scan.eat ':') then Scan.fail ()
  return (name, ← value)

/-- A value with blanks around it; `inner` reads the values inside, where they are allowed. -/
def valueWith (inner : Scan Unit Data) : Scan Unit Data := do
  blanks
  let d ← match ← Scan.peek with
    | some '[' => do
      Scan.drop 1
      pure (.list (← row inner ']'))
    | some '\x7b' => do
      Scan.drop 1
      pure (.record (← row (entry inner) '}'))
    | some '"' => do
      Scan.drop 1
      pure (.text (← string))
    | some 't' => do if ← Scan.eatAll ['t', 'r', 'u', 'e'] then pure (.bool true) else Scan.fail ()
    | some 'f' => do
      if ← Scan.eatAll ['f', 'a', 'l', 's', 'e'] then pure (.bool false) else Scan.fail ()
    | some 'n' => do if ← Scan.eatAll ['n', 'u', 'l', 'l'] then pure .null else Scan.fail ()
    | _ => number
  blanks
  return d

/-- Stands in for a list or a record that is nested too deep. -/
def tooDeep : Scan Unit Data := Scan.fail ()

/-- A value that is no list or record. -/
def scalar : Scan Unit Data := do
  blanks
  let next ← Scan.peek
  if next = some '[' || next = some '\x7b' then tooDeep else valueWith tooDeep

def value : (levels : Nat) → Scan Unit Data
  | 0 => scalar
  | levels + 1 => valueWith (value levels)

def maxDepth : Nat := 127

def read? (text : String) : Option Data :=
  match (value maxDepth).run text.toList with
  | .ok (d, []) => some d
  | _ => none

end GraphSelect.Json
