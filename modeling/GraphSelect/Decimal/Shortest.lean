import GraphSelect.Decimal.Binary64

/-! # The fewest digits that read back

All reals in an interval around a double round to it; its ends belong to the interval when the
mantissa is even. Of the decimals in the interval those with the fewest digits are taken, and of
these the nearest. On a grid of decimals only the two neighbors of the double need to be tried. -/
namespace GraphSelect.Decimal

/-- A number `digits * 10 ^ exponent`. -/
structure Scientific where
  digits : Nat
  exponent : Int
  deriving DecidableEq, Repr

/-- A positive fraction with the ends of the interval around it, over one denominator. -/
structure Interval where
  low : Nat
  value : Nat
  high : Nat
  denominator : Nat
  closed : Bool
  deriving Repr

/-- The interval of the reals that round to `mantissa * 2 ^ exponent`. The next smaller double is
at half the distance when the mantissa is the least of its length. -/
def Interval.around (mantissa : Nat) (exponent : Int) : Interval :=
  let below := if mantissa = 0x10000000000000 && exponent > -1074 then 1 else 2
  let up := Nat.pow 2 (exponent - 2).toNat
  let down := Nat.pow 2 (2 - exponent).toNat
  ⟨(4 * mantissa - below) * up, 4 * mantissa * up, (4 * mantissa + 2) * up, down, mantissa % 2 = 0⟩

def leadingExponent (numerator denominator : Nat) : Int :=
  if denominator ≤ numerator then ((toString (numerator / denominator)).length : Int) - 1
  else -((toString ((denominator + numerator - 1) / numerator - 1)).length : Int)

namespace Interval

def contains (i : Interval) (numerator denominator : Nat) : Bool :=
  let x := numerator * i.denominator
  if i.closed then i.low * denominator ≤ x && x ≤ i.high * denominator
  else i.low * denominator < x && x < i.high * denominator

/-- The decimal on the grid of `10 ^ exponent` that lies in the interval and is nearest to its
value; `tieUp` decides between two that are equally near. -/
def onGrid (i : Interval) (tieUp : Bool) (exponent : Int) : Option Scientific :=
  let up := Nat.pow 10 exponent.toNat
  let down := Nat.pow 10 (-exponent).toNat
  let scaled := i.value * down
  let unit := i.denominator * up
  let below := scaled / unit
  let rest := scaled % unit
  let inBelow := i.contains (below * up) down
  let inAbove := i.contains ((below + 1) * up) down
  let preferAbove := 2 * rest > unit || (2 * rest = unit && tieUp)
  if inAbove && (preferAbove || !inBelow) then some ⟨below + 1, exponent⟩
  else if inBelow then some ⟨below, exponent⟩
  else none

/-- The first grid with a decimal in the interval, from one that leaves `n` digits unseen on. -/
def firstOnGrid (i : Interval) (tieUp : Bool) (leading : Int) : (n : Nat) → Scientific
  | 0 => ⟨i.value / i.denominator, 0⟩
  | n + 1 => (i.onGrid tieUp (leading - 16 + n)).getD (i.firstOnGrid tieUp leading n)

end Interval

def stripZeros : (fuel : Nat) → Scientific → Scientific
  | 0, d => d
  | n + 1, d =>
    if d.digits ≠ 0 && d.digits % 10 = 0 then stripZeros n ⟨d.digits / 10, d.exponent + 1⟩ else d

/-- The shortest decimal that rounds to `mantissa * 2 ^ exponent`. Seventeen digits are always
enough. -/
def shortest (tieUp : Bool) (mantissa : Nat) (exponent : Int) : Scientific :=
  if mantissa = 0 then ⟨0, 0⟩
  else
    let i := Interval.around mantissa exponent
    stripZeros 20 (i.firstOnGrid tieUp (leadingExponent i.value i.denominator) 17)

end GraphSelect.Decimal
