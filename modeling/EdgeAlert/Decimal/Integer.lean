import EdgeAlert.Power

/-!
# Integers in decimal

Reading and writing integers in base ten. A written integer is a run of ASCII digits with an
optional sign in front; `readNat_digits` says that what is written for a natural number reads back.
-/

namespace EdgeAlert

/-- Integers that `bits` bits in two's complement can hold. -/
abbrev Signed (bits : Nat) := { i : Int // -2 ^ (bits - 1) ≤ i ∧ i < 2 ^ (bits - 1) }

def Signed.ofInt? (bits : Nat) (i : Int) : Option (Signed bits) :=
  if h : -2 ^ (bits - 1) ≤ i ∧ i < 2 ^ (bits - 1) then some ⟨i, h⟩ else none

namespace Decimal

def isDigit (c : Char) : Bool := '0' ≤ c && c ≤ '9'

def digitValue (c : Char) : Nat := c.toNat - '0'.toNat

def digits (n : Nat) : List Char := Nat.toDigits 10 n

def readNat (cs : List Char) : Nat := cs.foldl (fun n c => 10 * n + digitValue c) 0

/-- The value of a run of at least one digit and of nothing else. -/
def readNat? (cs : List Char) : Option Nat :=
  if cs ≠ [] ∧ cs.all isDigit then some (readNat cs) else none

def readInt? : List Char → Option Int
  | '-' :: cs => (readNat? cs).map fun n => -(n : Int)
  | '+' :: cs => (readNat? cs).map Int.ofNat
  | cs => (readNat? cs).map Int.ofNat

def writeInt (i : Int) : List Char :=
  if i < 0 then '-' :: digits i.natAbs else digits i.natAbs

def readSigned? (bits : Nat) (cs : List Char) : Option (Signed bits) :=
  (readInt? cs).bind (Signed.ofInt? bits)

theorem readNat_append (xs : List Char) (c : Char) :
    readNat (xs ++ [c]) = 10 * readNat xs + digitValue c := by
  simp [readNat, List.foldl_append]

theorem digits_of_lt {n : Nat} (h : n < 10) : digits n = [Nat.digitChar n] := by
  simp [digits, Nat.toDigits_of_lt_base h]

theorem digits_of_ge {n : Nat} (h : 10 ≤ n) :
    digits n = digits (n / 10) ++ [Nat.digitChar (n % 10)] := by
  have := Nat.toDigits_append_toDigits (b := 10) (n := n / 10) (d := n % 10) (by decide)
    (by omega) (Nat.mod_lt _ (by decide))
  rw [Nat.toDigits_of_lt_base (Nat.mod_lt _ (by decide))] at this
  rw [digits, digits, this]
  congr 1
  omega

theorem digitChar_isDigit {d : Nat} (h : d < 10) :
    isDigit (Nat.digitChar d) ∧ digitValue (Nat.digitChar d) = d := by
  have : d = 0 ∨ d = 1 ∨ d = 2 ∨ d = 3 ∨ d = 4 ∨ d = 5 ∨ d = 6 ∨ d = 7 ∨ d = 8 ∨ d = 9 := by omega
  rcases this with rfl | rfl | rfl | rfl | rfl | rfl | rfl | rfl | rfl | rfl <;> decide

theorem readNat_digits (n : Nat) : (digits n).all isDigit ∧ readNat (digits n) = n := by
  induction n using Nat.strongRecOn with
  | ind n ih =>
    rcases Nat.lt_or_ge n 10 with h | h
    · have := digitChar_isDigit h
      simp [digits_of_lt h, readNat, this]
    · have hr := ih (n / 10) (by omega)
      have hd := digitChar_isDigit (Nat.mod_lt n (by decide : 0 < 10))
      rw [digits_of_ge h, readNat_append, hr.2, hd.2]
      refine ⟨?_, by omega⟩
      rw [List.all_append, hr.1]
      simp [hd.1]

theorem digits_ne_nil (n : Nat) : digits n ≠ [] := by
  rcases Nat.lt_or_ge n 10 with h | h
  · simp [digits_of_lt h]
  · simp [digits_of_ge h]

end Decimal
end EdgeAlert
