import EdgeAlert.Binary.Format

/-!
# Binary floating-point numbers

A number of a format is a signed magnitude on the format's grid, an infinity, or no number at all.
Ratios round to the nearest number, ties to even, and overflow to an infinity; order is the order
of the reals, the two zeros being equal and "no number" unordered.
-/

namespace EdgeAlert

/-- A finite magnitude of a format, counted in units. -/
structure Magnitude (f : Format) where
  units : Nat
  representable : f.Representable units
  deriving DecidableEq

inductive Binary (f : Format) where
  | nan
  | infinite (negative : Bool)
  | finite (negative : Bool) (magnitude : Magnitude f)
  deriving DecidableEq

namespace Magnitude

variable {f : Format}

def ofUnits? (f : Format) (units : Nat) : Option (Magnitude f) :=
  if h : f.Representable units then some ⟨units, h⟩ else none

/-- The magnitude nearest to `n / d`, unless it is past the format's limit. -/
def ofRatio? (f : Format) (n d : Nat) : Option (Magnitude f) :=
  if h : f.round (n * 2 ^ f.scale) d < f.limit then
    some ⟨_, f.round_representable _ _ h⟩
  else none

/-- The power of ten may be out of all proportion: the position of the leading digit then settles it. -/
def ofDecimal? (f : Format) (digits : Nat) (exponent : Int) : Option (Magnitude f) :=
  let point := exponent + (Nat.toDigits 10 digits).length
  if digits = 0 ∨ point ≤ -(f.scale + 1) then ofRatio? f 0 1
  else if (f.precision + f.top : Int) < point then none
  else if exponent < 0 then ofRatio? f digits (10 ^ exponent.natAbs)
  else ofRatio? f (digits * 10 ^ exponent.natAbs) 1

theorem ofRatio?_units (m : Magnitude f) : ofRatio? f m.units (2 ^ f.scale) = some m := by
  have h : f.round (m.units * 2 ^ f.scale) (2 ^ f.scale) = m.units := by
    have := f.round_mul_right m.units 1 (Nat.two_pow_pos f.scale)
    rw [Nat.one_mul] at this
    rw [this, f.round_of_representable m.representable]
  unfold ofRatio?
  simp only [h, m.representable.2, ↓reduceDIte]

end Magnitude

namespace Binary

variable {f : Format}

def ofRatio (f : Format) (negative : Bool) (n d : Nat) : Binary f :=
  match Magnitude.ofRatio? f n d with
  | some m => .finite negative m
  | none => .infinite negative

def ofDecimal (f : Format) (negative : Bool) (digits : Nat) (exponent : Int) : Binary f :=
  match Magnitude.ofDecimal? f digits exponent with
  | some m => .finite negative m
  | none => .infinite negative

def ofInt (f : Format) (i : Int) : Binary f := ofRatio f (i < 0) i.natAbs 1

def convert (g : Format) : Binary f → Binary g
  | .nan => .nan
  | .infinite negative => .infinite negative
  | .finite negative m => ofRatio g negative m.units (2 ^ f.scale)

/-- The place on the real line in units. An infinity stands one unit past the last finite place. -/
def place? : Binary f → Option Int
  | .nan => none
  | .infinite negative => some (if negative then -f.limit else f.limit)
  | .finite negative m => some (if negative then -m.units else m.units)

def compare? (x y : Binary f) : Option Ordering := do
  return Ord.compare (← x.place?) (← y.place?)

def isPositiveInfinity : Binary f → Bool
  | .infinite false => true
  | _ => false

end Binary
end EdgeAlert
