/-! # Floating-point numbers as exact fractions

A finite double is a whole number times a power of two. Printing and reading decimals works on
these two numbers, in exact arithmetic. -/
namespace GraphSelect.Decimal

inductive Binary64
  /-- `mantissa * 2 ^ exponent`, with a sign that zero keeps too. -/
  | finite (negative : Bool) (mantissa : Nat) (exponent : Int)
  | infinite (negative : Bool)
  | nan
  deriving DecidableEq, Repr

namespace Binary64

/-- The value of the 64 bits of a double. -/
def ofBits (bits : Nat) : Binary64 :=
  let negative : Bool := 0x8000000000000000 ≤ bits
  let fraction : Nat := bits % 0x10000000000000
  let exponent : Nat := bits / 0x10000000000000 % 0x800
  if exponent = 2047 then if fraction = 0 then infinite negative else nan
  else if exponent = 0 then finite negative fraction (-1074)
  else finite negative (fraction + 0x10000000000000) ((exponent : Int) - 1075)

def ofFloat (x : Float) : Binary64 := ofBits x.toBits.toNat

end Binary64

/-- The double nearest to `digits * 10 ^ exponent`. Exponents so large or small that the result is
infinite or zero are told apart first. -/
def toFloat (digits : Nat) (exponent : Int) : Float :=
  let size := (toString digits).length
  if digits = 0 then 0
  else if exponent + size > 400 then 1 / 0
  else if exponent + size < -400 then 0
  else if exponent < 0 then Float.ofScientific digits true exponent.natAbs
  else Float.ofScientific digits false exponent.natAbs

def floatOfInt (i : Int) : Float :=
  let x := i.natAbs.toUInt64.toFloat
  if i < 0 then -x else x

end GraphSelect.Decimal
