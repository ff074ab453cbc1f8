/-!
# Hexadecimal numbers

Reading numbers in base sixteen and the characters that they stand for.
-/

namespace EdgeAlert.Text

def hexValue? (c : Char) : Option Nat :=
  if '0' ≤ c ∧ c ≤ '9' then some (c.toNat - '0'.toNat)
  else if 'a' ≤ c ∧ c ≤ 'f' then some (c.toNat - 'a'.toNat + 10)
  else if 'A' ≤ c ∧ c ≤ 'F' then some (c.toNat - 'A'.toNat + 10)
  else none

def hexNumber? (cs : List Char) : Option Nat :=
  if cs = [] then none
  else cs.foldlM (fun n c => (hexValue? c).map (16 * n + ·)) 0

def charOfCode? (n : Nat) : Option Char := if n.isValidChar then some (Char.ofNat n) else none

end EdgeAlert.Text
