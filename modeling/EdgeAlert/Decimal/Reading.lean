import EdgeAlert.Binary.Basic
import EdgeAlert.Decimal.Integer

/-!
# Reading floating-point text

The text of a number is an optional sign and either one of the words for the numbers that are not
finite, in any case, or digits with an optional point among or around them and an optional exponent.
At least one digit is needed before the exponent and after its mark.
-/

namespace EdgeAlert.Decimal

def splitSign : List Char → Bool × List Char
  | '-' :: cs => (true, cs)
  | '+' :: cs => (false, cs)
  | cs => (false, cs)

def readExponent? : List Char → Option Int
  | [] => some 0
  | c :: cs => if c = 'e' ∨ c = 'E' then readInt? cs else none

/-- The digits of a mantissa, read as a whole number, with the exponent that puts its point back. -/
def readScientific? (cs : List Char) : Option (Nat × Int) :=
  let whole := cs.takeWhile isDigit
  let rest := cs.dropWhile isDigit
  let (fraction, rest) := match rest with
    | '.' :: r => (r.takeWhile isDigit, r.dropWhile isDigit)
    | r => ([], r)
  if whole ++ fraction = [] then none
  else (readExponent? rest).map fun e => (readNat (whole ++ fraction), e - fraction.length)

def readBinary? (f : Format) (text : List Char) : Option (Binary f) :=
  let (negative, cs) := splitSign text
  let word := String.ofList (cs.map Char.toLower)
  if word = "nan" then some .nan
  else if word = "inf" ∨ word = "infinity" then some (.infinite negative)
  else (readScientific? cs).map fun (digits, exponent) =>
    Binary.ofDecimal f negative digits exponent

end EdgeAlert.Decimal
