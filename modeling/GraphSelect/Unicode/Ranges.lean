/-! # Sets of characters as ranges

The tables of character properties are written as texts of hexadecimal ranges, such as
`41..5a aa`, in ascending order. A set is looked up by halving. -/
namespace GraphSelect.Unicode

/-- Ascending ranges of code points that do not touch. -/
structure Ranges where
  bounds : Array (Nat × Nat)
  deriving Repr, Inhabited

def hexDigit (c : Char) : Nat :=
  if c.isDigit then c.toNat - '0'.toNat else c.toNat + 10 - 'a'.toNat

def readHex (s : String) : Nat := s.toList.foldl (fun n c => 16 * n + hexDigit c) 0

def words (text : String) : List String :=
  let (word, rest) := text.toList.foldr (fun c (word, rest) =>
    if c.isWhitespace then ([], if word.isEmpty then rest else String.ofList word :: rest)
    else (c :: word, rest)) ([], [])
  if word.isEmpty then rest else String.ofList word :: rest

namespace Ranges

def readItem (item : String) : Nat × Nat :=
  match item.splitOn ".." with
  | [first, last] => (readHex first, readHex last)
  | _ => (readHex item, readHex item)

def ofText (text : String) : Ranges := ⟨((words text).map readItem).toArray⟩

def search (bounds : Array (Nat × Nat)) (x lo hi : Nat) : Bool :=
  if lo < hi then
    let middle := (lo + hi) / 2
    let (first, last) := bounds[middle]?.getD (0, 0)
    if x < first then search bounds x lo middle
    else if last < x then search bounds x (middle + 1) hi
    else true
  else false
termination_by hi - lo

def contains (r : Ranges) (c : Char) : Bool := search r.bounds c.toNat 0 r.bounds.size

end Ranges

/-- The ranges of a row of a table that has `name` among its names. -/
def findRow (rows : List (String × String)) (name : String) : Option Ranges :=
  (rows.find? fun row => (words row.1).contains name).map fun row => .ofText row.2

end GraphSelect.Unicode
