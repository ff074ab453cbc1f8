import EdgeAlert.Binary.Basic
import EdgeAlert.Decimal.Integer

/-!
# Shortest decimals

The decimal with the fewest digits that reads back as a given magnitude. For one digit, then two,
and so on, the two neighbours of the magnitude on that decimal grid are read back; the first grid
with a hit wins, and of two hits the nearer one.
-/

namespace EdgeAlert

structure Decimal where
  coefficient : Nat
  exponent : Int
  deriving DecidableEq, Repr

namespace Decimal

inductive Tie where
  | up
  | even
  deriving DecidableEq

/-- How many digits `n / d` has before its decimal point; zero or less counts the zeros after it. -/
def leadingPoint (n d : Nat) : Int :=
  if d ≤ n then (digits (n / d)).length
  else
    let k := (digits (d / n)).length
    if n * 10 ^ (k - 1) = d then 2 - k else 1 - k

/-- The decimal with at most `count` digits: one more than the greatest of them is a power of ten. -/
def carry (count : Nat) (x : Decimal) : Decimal :=
  if x.coefficient = 10 ^ count then ⟨1, x.exponent + count⟩ else x

end Decimal

namespace Magnitude

variable {f : Format}

def ReadsBack (m : Magnitude f) (x : Decimal) : Prop := ofDecimal? f x.coefficient x.exponent = some m

instance (m : Magnitude f) (x : Decimal) : Decidable (m.ReadsBack x) :=
  inferInstanceAs (Decidable (_ = _))

/-- All the digits of the magnitude. A unit is a power of one half, so they come to an end. -/
def exactDecimal (m : Magnitude f) : Decimal := ⟨m.units * 5 ^ f.scale, -f.scale⟩

def decimalOfLength? (tie : Decimal.Tie) (m : Magnitude f) (count : Nat) : Option Decimal :=
  let exponent := Decimal.leadingPoint m.units (2 ^ f.scale) - count
  let n := m.units * 10 ^ (-exponent).toNat
  let d := 2 ^ f.scale * 10 ^ exponent.toNat
  let below : Decimal := ⟨n / d, exponent⟩
  let above := Decimal.carry count ⟨n / d + 1, exponent⟩
  let nearAbove := d < 2 * (n % d) ∨
    2 * (n % d) = d ∧ (tie = .up ∨ (n / d) % 2 = 1)
  if m.ReadsBack below then
    some (if m.ReadsBack above ∧ nearAbove then above else below)
  else if m.ReadsBack above then some above
  else none

/-- Seventeen digits tell apart any two numbers of eight bytes. -/
def digitLimit : Nat := 17

def shortest (tie : Decimal.Tie) (m : Magnitude f) : Decimal :=
  if m.units = 0 then ⟨0, 0⟩
  else ((List.range digitLimit).findSome? fun i => m.decimalOfLength? tie (i + 1)).getD
    m.exactDecimal

end Magnitude
end EdgeAlert
