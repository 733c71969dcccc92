import GraphSelect.Decimal.Shortest

/-! # How floating-point numbers are written

The digits come from `shortest`; a layout says where the point may stand and what an exponent
looks like. -/
namespace GraphSelect.Decimal

structure Layout where
  /-- The place of the point, counted from the first digit, between which no exponent is written;
  without bounds an exponent is never written. -/
  positional : Option (Int × Int)
  /-- What a whole number ends with. -/
  whole : String
  /-- Which of two equally near decimals is taken. -/
  tieUp : Bool
  deriving Repr

def zeros (n : Int) : String := String.ofList (List.replicate n.toNat '0')

def Layout.writePositional (l : Layout) (digits : String) (point : Int) : String :=
  if point ≤ 0 then "0." ++ zeros (-point) ++ digits
  else if digits.length ≤ point then digits ++ zeros (point - digits.length) ++ l.whole
  else
    let cs := digits.toList
    String.ofList (cs.take point.toNat) ++ "." ++ String.ofList (cs.drop point.toNat)

/-- Digits with a point behind the first and an exponent of at least two digits with its sign. -/
def writeScientific (digits : String) (point : Int) : String :=
  let mantissa := match digits.toList with
    | [] => ""
    | [c] => String.ofList [c]
    | c :: rest => String.ofList (c :: '.' :: rest)
  let size := (point - 1).natAbs
  mantissa ++ (if point ≤ 0 then "e-" else "e+") ++ (if size < 10 then "0" else "") ++ toString size

def Layout.writeDecimal (l : Layout) (d : Scientific) : String :=
  let digits := toString d.digits
  if d.digits = 0 then "0" ++ l.whole
  else
    let point := d.exponent + digits.length
    let isPositional := l.positional.all fun (lo, hi) => lo ≤ point && point ≤ hi
    if isPositional then l.writePositional digits point else writeScientific digits point

def Layout.write (l : Layout) (x : Float) : String :=
  match Binary64.ofFloat x with
  | .nan => "NaN"
  | .infinite negative => (if negative then "-" else "") ++ "inf"
  | .finite negative mantissa exponent =>
    (if negative then "-" else "") ++ l.writeDecimal (shortest l.tieUp mantissa exponent)

/-- Attributes never have an exponent, and whole numbers no point. -/
def attributeLayout : Layout := ⟨none, "", true⟩

/-- Messages always have a point or an exponent, and an exponent from the seventeenth place on. -/
def messageLayout : Layout := ⟨some (-4, 16), ".0", false⟩

end GraphSelect.Decimal
