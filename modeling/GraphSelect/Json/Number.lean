import GraphSelect.Data
import GraphSelect.Text.Natural
import GraphSelect.Text.Scan

/-! # Numbers in JSON

A number without a point and an exponent is kept as an integer when it fits in 64 bits. Others
become doubles: digits are gathered while they fit in 64 bits, and the result is scaled by a power
of ten in floating point, which can be off from the nearest double in the last place. -/
namespace GraphSelect.Json

open Text

/-- Digits that no longer fit in 64 bits are left over. -/
def gather (significand : Nat) : List Char → Nat × List Char
  | [] => (significand, [])
  | c :: rest =>
    let n := significand * 10 + (c.toNat - '0'.toNat)
    if n < wordBound then gather n rest else (significand, c :: rest)

/-- The value of the digits of an exponent, if it fits in 31 bits. -/
def exponentValue? (digits : List Char) : Option Int :=
  let n := digits.foldl (fun n c => n * 10 + (c.toNat - '0'.toNat)) 0
  if n < 0x80000000 then some n else none

/-- A power of ten up to the largest one that is finite. -/
def powerOfTen (n : Nat) : Float := Float.ofScientific 1 false n

/-- Scales by a power of ten, in steps when the power is too large for one; an infinite result is
refused. The steps end because each takes 308 off the exponent. -/
def scale : (steps : Nat) → Float → Int → Option Float
  | steps, x, exponent =>
    if exponent.natAbs ≤ 308 then
      if 0 ≤ exponent then
        let y := x * powerOfTen exponent.natAbs
        if y.isInf then none else some y
      else some (x / powerOfTen exponent.natAbs)
    else if x == 0 then some x
    else if 0 ≤ exponent then none
    else match steps with
      | 0 => some 0
      | n + 1 => scale n (x / powerOfTen 308) (exponent + 308)

def floatOfParts (negative : Bool) (significand : Nat) (exponent : Int) : Option Float :=
  (scale 4 significand.toUInt64.toFloat exponent).map fun x => if negative then -x else x

structure NumberText where
  negative : Bool
  whole : List Char
  fraction : Option (List Char)
  /-- Whether the exponent is negative, and its digits. -/
  exponent : Option (Bool × List Char)
  deriving Repr

def NumberText.float? (t : NumberText) : Option Float :=
  let (significand, beyond) := gather 0 t.whole
  let (significand, behind) := gather significand (t.fraction.getD [])
  let shift : Int := beyond.length - ((t.fraction.getD []).length - behind.length : Nat)
  match t.exponent with
  | none => floatOfParts t.negative significand shift
  | some (down, digits) =>
    match exponentValue? digits with
    | some e => floatOfParts t.negative significand (if down then shift - e else shift + e)
    | none =>
      if significand ≠ 0 && !down then none else some (if t.negative then -0.0 else 0.0)

/-- The value of a number. A negative zero and numbers beyond 64 bits are no integers. -/
def NumberText.data? (t : NumberText) : Option Data :=
  let (n, beyond) := gather 0 t.whole
  if t.fraction.isSome || t.exponent.isSome || !beyond.isEmpty then t.float?.map .float
  else if !t.negative then some (.int n)
  else if n = 0 || signedBound < n then some (.float (-n.toUInt64.toFloat))
  else some (.int (-n))

def digits1 : Scan Unit (List Char) := do
  let ds ← Scan.takeWhile Char.isDigit
  if ds.isEmpty then Scan.fail ()
  return ds

/-- A number; no zero may stand before other digits. -/
def number : Scan Unit Data := do
  let negative ← Scan.eat '-'
  let whole ← digits1
  if whole.length > 1 && whole.head? = some '0' then Scan.fail ()
  let fraction ← if ← Scan.eat '.' then pure (some (← digits1)) else pure none
  let next ← Scan.peek
  let exponent ← if next = some 'e' || next = some 'E' then do
      Scan.drop 1
      let plus ← Scan.eat '+'
      let down ← if plus then pure false else Scan.eat '-'
      pure (some (down, ← digits1))
    else pure none
  match NumberText.data? ⟨negative, whole, fraction, exponent⟩ with
  | some d => return d
  | none => Scan.fail ()

end GraphSelect.Json
