import EdgeAlert.Decimal.Shortest

/-!
# Layouts of floating-point text

A layout says how the shortest digits of a number are set out: where positional notation ends,
whether a whole number keeps a fraction, and how the numbers that are not finite are spelled.
-/

namespace EdgeAlert

structure Layout where
  /-- The neighbour taken when two shortest decimals are equally near. -/
  tie : Decimal.Tie
  /-- Numbers with this many digits before the point are written without an exponent. -/
  positional : Int → Bool
  wholeSuffix : String
  nan : String
  infinity : String

namespace Decimal

/-- Digits with the decimal point after the first `point` of them, zeros filling any gap. -/
def setPoint (ds : List Char) (point : Int) (wholeSuffix : List Char) : List Char :=
  if point ≤ 0 then '0' :: '.' :: (List.replicate point.natAbs '0' ++ ds)
  else if (ds.length : Int) ≤ point then
    ds ++ List.replicate (point.toNat - ds.length) '0' ++ wholeSuffix
  else ds.take point.toNat ++ '.' :: ds.drop point.toNat

/-- Digits with the point after the first one and an exponent that always has a sign. -/
def setExponent (ds : List Char) (point : Int) : List Char :=
  let mantissa := match ds with
    | d :: r@(_ :: _) => d :: '.' :: r
    | ds => ds
  let exponent := point - 1
  mantissa ++ 'e' :: (if exponent < 0 then '-' else '+') :: digits exponent.natAbs

def write (layout : Layout) (x : Decimal) : List Char :=
  let ds := digits x.coefficient
  let point := x.exponent + ds.length
  if layout.positional point then setPoint ds point layout.wholeSuffix.toList
  else setExponent ds point

end Decimal

namespace Layout

variable {f : Format}

def write (layout : Layout) : Binary f → String
  | .nan => layout.nan
  | .infinite negative => if negative then "-" ++ layout.infinity else layout.infinity
  | .finite negative m =>
    let body := String.ofList ((m.shortest layout.tie).write layout)
    if negative then "-" ++ body else body

def plain : Layout where
  tie := .up
  positional := fun _ => true
  wholeSuffix := ""
  nan := "NaN"
  infinity := "inf"

end Layout
end EdgeAlert
