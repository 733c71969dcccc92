import GraphSelect.Data
import GraphSelect.Decimal.Binary64
import GraphSelect.Text.Natural
import GraphSelect.Toml.DateTime

/-! # Numbers in TOML

Integers have a sign, or else a base, and have to fit in 64 bits. A point or an exponent makes a
decimal number a double, and infinities and the absence of a number have names. Single underscores
may stand between digits. -/
namespace GraphSelect.Toml

open Text

/-- One or more digits with single underscores between them. -/
def digitRun (isDigit : Char → Bool) : Scan Unit (List Char) := do
  let digits : Scan Unit (List Char) := do
    let ds ← Scan.takeWhile isDigit
    if ds.isEmpty then Scan.fail ()
    return ds
  let first ← digits
  let rest ← Scan.many do
    if ← Scan.eat '_' then return some (← digits) else return none
  return first ++ rest.flatten

def digitValue (c : Char) : Nat :=
  if c.isDigit then c.toNat - '0'.toNat
  else if 'a' ≤ c then c.toNat - 'a'.toNat + 10
  else c.toNat - 'A'.toNat + 10

/-- Whether a character is a digit of a base up to sixteen. -/
def isDigitOf (base : Nat) (c : Char) : Bool :=
  (c.isDigit || ('a' ≤ c && c ≤ 'f') || ('A' ≤ c && c ≤ 'F')) && digitValue c < base

def inWord (i : Int) : Scan Unit Data :=
  if isWord i then return .int i else Scan.fail ()

def basedInteger (base : Nat) : Scan Unit Data := do
  let digits ← digitRun (isDigitOf base)
  inWord (digits.foldl (fun n c => n * base + digitValue c) 0 : Nat)

def exponent? : Scan Unit (Option Int) := do
  let next ← Scan.peek
  if next = some 'e' || next = some 'E' then
    Scan.drop 1
    let sign ← Scan.peek
    if sign = some '+' || sign = some '-' then Scan.drop 1
    let n : Int := digitsValue (← digitRun Char.isDigit)
    return some (if sign = some '-' then -n else n)
  else return none

/-- A double from its digits. A positive number that is too large is refused, a negative one
becomes infinite. -/
def double (negative : Bool) (digits : Nat) (exponent : Int) : Scan Unit Data :=
  let x := Decimal.toFloat digits exponent
  if negative then return .float (-x) else if x.isInf then Scan.fail () else return .float x

/-- A decimal number behind its sign. No zero may stand before other digits. -/
def decimal (negative : Bool) : Scan Unit Data := do
  let whole ← digitRun Char.isDigit
  if whole.length > 1 && whole.head? = some '0' then Scan.fail ()
  let fraction ← if ← Scan.eat '.' then pure (some (← digitRun Char.isDigit)) else pure none
  let exponent ← exponent?
  let behind := fraction.getD []
  if fraction.isNone && exponent.isNone then
    let n : Int := digitsValue whole
    inWord (if negative then -n else n)
  else double negative (digitsValue (whole ++ behind)) (exponent.getD 0 - behind.length)

def signed (negative : Bool) : Scan Unit Data := do
  if ← Scan.eatAll ['i', 'n', 'f'] then return .float (if negative then -1 / 0 else 1 / 0)
  else if ← Scan.eatAll ['n', 'a', 'n'] then return .float (0 / 0)
  else decimal negative

def number : Scan Unit Data := do
  if ← Scan.eatAll ['0', 'x'] then basedInteger 16
  else if ← Scan.eatAll ['0', 'o'] then basedInteger 8
  else if ← Scan.eatAll ['0', 'b'] then basedInteger 2
  else if ← Scan.eat '+' then signed false
  else signed (← Scan.eat '-')

end GraphSelect.Toml
