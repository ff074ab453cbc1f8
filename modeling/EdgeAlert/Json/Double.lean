import EdgeAlert.Decimal.Shortest

/-!
# Doubles in JSON

A number that is no integer is read fast rather than exactly. As many of its digits as 64 bits hold make
up a significand, which is then multiplied by a power of ten or divided by one. The significand, the power
and the result are each rounded, so that what is found can be a neighbour of the nearest double.
-/

namespace EdgeAlert.Json

section Digits

variable (limit : Nat)

def pushDigit? (significand : Nat) (digit : Char) : Option Nat :=
  let next := 10 * significand + Decimal.digitValue digit
  if next < limit then some next else none

/-- The digits before the point. From the first that does not fit on, they only scale the number. -/
def takeWhole (significand : Nat) : List Char → Decimal
  | [] => ⟨significand, 0⟩
  | digit :: rest => match pushDigit? limit significand digit with
    | some next => takeWhole next rest
    | none => ⟨significand, rest.length + 1⟩

/-- The digits after the point, up to the first that does not fit. -/
def takeFraction (x : Decimal) : List Char → Decimal
  | [] => x
  | digit :: rest => match pushDigit? limit x.coefficient digit with
    | some next => takeFraction ⟨next, x.exponent - 1⟩ rest
    | none => x

end Digits

def significandLimit : Nat := 0x10000000000000000

def greatestPower : Nat := 308

def power (exponent : Nat) : Nat := Format.double.ofNat (10 ^ exponent)

/-- Some units divided by the greatest power of ten again and again, unless nothing is left. -/
def shrink (units : Nat) : Nat → Nat
  | 0 => units
  | times + 1 =>
    if units = 0 then 0 else shrink (Format.double.quotient units (power greatestPower)) times

/-- The magnitude that is found for `significand * 10 ^ exponent`, unless that is an infinity. -/
def ofParts? (significand : Nat) (exponent : Int) : Option (Magnitude .double) :=
  let units := Format.double.ofNat significand
  if exponent < 0 then
    -- The last division is by what the greatest power leaves of the exponent, and that is never nothing.
    let below := exponent.natAbs - 1
    let shrunk := shrink units (below / greatestPower)
    Magnitude.ofUnits? .double (Format.double.quotient shrunk (power (below % greatestPower + 1)))
  else if exponent ≤ greatestPower then
    Magnitude.ofUnits? .double (Format.double.product units (power exponent.toNat))
  else if units = 0 then Magnitude.ofUnits? .double 0
  else none

end EdgeAlert.Json
