/-! # Numbers in digits

Indices, depths and limits are written as plain ASCII digits. A number that the program keeps
has to fit in 64 bits; a longer one is refused and never wraps. -/
namespace GraphSelect.Text

def digitsValue (s : List Char) : Nat := s.foldl (fun n c => n * 10 + (c.toNat - '0'.toNat)) 0

def hexDigit? (c : Char) : Option Nat :=
  if c.isDigit then some (c.toNat - '0'.toNat)
  else if 'a' ≤ c && c ≤ 'f' then some (c.toNat - 'a'.toNat + 10)
  else if 'A' ≤ c && c ≤ 'F' then some (c.toNat - 'A'.toNat + 10)
  else none

/-- The first number that does not fit in 64 bits. -/
def wordBound : Nat := 0x10000000000000000

/-- The first number that does not fit in 64 bits together with a sign. -/
def signedBound : Nat := 0x8000000000000000

/-- Whether an integer fits in 64 bits with its sign. -/
def isWord (i : Int) : Bool := -signedBound ≤ i && i < signedBound

def readDigits (s : List Char) : Option Nat :=
  if s.isEmpty || !s.all Char.isDigit then none
  else if digitsValue s < wordBound then some (digitsValue s) else none

def readNatural : List Char → Option Nat
  | '+' :: s => readDigits s
  | s => readDigits s

end GraphSelect.Text
