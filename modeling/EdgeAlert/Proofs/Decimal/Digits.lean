import Mathlib.Tactic.Linarith
import Mathlib.Tactic.Ring
import EdgeAlert.Decimal.Integer

/-!
# Runs of digits

What a run of digits spells when zeros are put in front of it or after it, and where a reader of digits
stops. The digits of a positive number do not start with a zero.
-/

namespace EdgeAlert.Decimal

variable {ds more : List Char} {n : Nat}

/-- A reader of digits stops at this text. -/
def StopsDigits (more : List Char) : Prop := ∀ c ∈ more.head?, isDigit c = false

theorem takeWhile_digits (digits : ds.all isDigit) (stops : StopsDigits more) :
    (ds ++ more).takeWhile isDigit = ds ∧ (ds ++ more).dropWhile isDigit = more := by
  induction ds with
  | nil =>
    cases more with
    | nil => exact ⟨rfl, rfl⟩
    | cons c more => simp [stops c rfl]
  | cons d ds ih =>
    rw [List.all_cons, Bool.and_eq_true] at digits
    obtain ⟨first, others⟩ := digits
    obtain ⟨taken, left⟩ := ih others
    rw [List.cons_append, List.takeWhile_cons_of_pos first, List.dropWhile_cons_of_pos first, taken, left]
    exact ⟨rfl, rfl⟩

theorem all_replicate_zero (k : Nat) : (List.replicate k '0').all isDigit = true := by
  rw [List.all_replicate]
  split <;> decide

theorem foldl_digits (n : Nat) (ds : List Char) :
    ds.foldl (fun n c => 10 * n + digitValue c) n = n * 10 ^ ds.length + readNat ds := by
  induction ds generalizing n with
  | nil => exact (Nat.mul_one n).symm
  | cons d ds ih =>
    have start : readNat (d :: ds) = (10 * 0 + digitValue d) * 10 ^ ds.length + readNat ds := ih _
    rw [List.foldl_cons, ih, start, List.length_cons]
    ring

theorem readNat_cons (d : Char) (ds : List Char) :
    readNat (d :: ds) = digitValue d * 10 ^ ds.length + readNat ds := by
  rw [readNat, List.foldl_cons, foldl_digits, Nat.mul_zero, Nat.zero_add]

theorem readNat_appendDigits (front back : List Char) :
    readNat (front ++ back) = readNat front * 10 ^ back.length + readNat back := by
  unfold readNat
  rw [List.foldl_append, foldl_digits, readNat]

theorem readNat_zeros (k : Nat) : readNat (List.replicate k '0') = 0 := by
  induction k with
  | zero => rfl
  | succ k ih =>
    have zero : digitValue '0' = 0 := by decide
    rw [List.replicate_succ, readNat_cons, ih, zero, Nat.zero_mul]

/-- Zeros in front of a run of digits do not count. -/
theorem readNat_zeros_append (k : Nat) (ds : List Char) :
    readNat (List.replicate k '0' ++ ds) = readNat ds := by
  rw [readNat_appendDigits, readNat_zeros, Nat.zero_mul, Nat.zero_add]

theorem readNat_append_zeros (ds : List Char) (k : Nat) :
    readNat (ds ++ List.replicate k '0') = readNat ds * 10 ^ k := by
  rw [readNat_appendDigits, readNat_zeros, List.length_replicate, Nat.add_zero]

theorem readNat_lt (digits : ds.all isDigit) : readNat ds < 10 ^ ds.length := by
  induction ds with
  | nil => decide
  | cons d ds ih =>
    rw [List.all_cons, Bool.and_eq_true] at digits
    have small : digitValue d ≤ 9 := by
      have bounds := digits.1
      rw [isDigit, Bool.and_eq_true, decide_eq_true_eq, decide_eq_true_eq] at bounds
      exact Nat.sub_le_sub_right bounds.2 '0'.toNat
    have rest := ih digits.2
    rw [readNat_cons, List.length_cons, Nat.pow_succ]
    nlinarith

theorem digits_cons_of_pos (pos : 0 < n) : ∃ d ds, digits n = d :: ds ∧ d ≠ '0' := by
  induction n using Nat.strongRecOn with
  | ind n ih =>
    rcases Nat.lt_or_ge n 10 with small | large
    · refine ⟨_, [], digits_of_lt small, fun zero => ?_⟩
      have value := (digitChar_isDigit small).2
      rw [zero] at value
      exact absurd value (Nat.ne_of_lt pos)
    · obtain ⟨d, ds, front, nonzero⟩ := ih (n / 10) (by omega) (by omega)
      rw [digits_of_ge large, front]
      exact ⟨d, ds ++ [Nat.digitChar (n % 10)], rfl, nonzero⟩

end EdgeAlert.Decimal
