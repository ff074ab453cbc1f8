import Mathlib.Data.Rat.Cast.Order
import Mathlib.Tactic.FieldSimp
import Mathlib.Tactic.Positivity
import EdgeAlert.Decimal.Shortest
import EdgeAlert.Proofs.Binary.Rounding

/-!
# Decimals that read back

`shortest_readsBack`: the decimal that is written for a magnitude is read as this magnitude. So it lies
within half a step of the grid around the magnitude.
-/

namespace EdgeAlert

def Decimal.value (x : Decimal) : ℚ := x.coefficient * 10 ^ x.exponent

theorem Decimal.value_scale (x : Decimal) (k : ℕ) :
    ((x.coefficient * 10 ^ k : ℕ) : ℚ) * 10 ^ (x.exponent - k) = x.value := by
  rw [value, zpow_sub₀ (by norm_num), zpow_natCast]
  push_cast
  field_simp

theorem Decimal.value_eq_div (x : Decimal) :
    x.value = (x.coefficient * 10 ^ x.exponent.toNat : ℕ) / (10 ^ (-x.exponent).toNat : ℕ) := by
  have split : x.exponent = (x.exponent.toNat : ℤ) - ((-x.exponent).toNat : ℤ) := by omega
  rw [value]
  nth_rewrite 1 [split]
  rw [zpow_sub₀ (by norm_num), zpow_natCast, zpow_natCast]
  push_cast
  ring

namespace Magnitude

variable {f : Format} {n d n' d' : Nat}

/-- Equal ratios are rounded to the same magnitude. -/
theorem ofRatio?_congr (pos : 0 < d) (pos' : 0 < d') (same : n * d' = n' * d) :
    ofRatio? f n d = ofRatio? f n' d' := by
  have rounded : f.round (n * 2 ^ f.scale) d = f.round (n' * 2 ^ f.scale) d' := by
    rw [← f.round_mul_right _ d pos', ← f.round_mul_right (n' * 2 ^ f.scale) d' pos, Nat.mul_right_comm,
      same, Nat.mul_right_comm, Nat.mul_comm d d']
  unfold ofRatio?
  simp only [rounded]

theorem eq_of_units {m m' : Magnitude f} (same : m.units = m'.units) : m = m' := by
  obtain ⟨units, _⟩ := m
  obtain rfl : units = m'.units := same
  rfl

theorem ofRatio?_eq_some_iff {m : Magnitude f} :
    ofRatio? f n d = some m ↔ f.round (n * 2 ^ f.scale) d = m.units := by
  unfold ofRatio?
  constructor
  · intro found
    split at found
    · rw [← Option.some.inj found]
    · cases found
  · intro units
    have below : f.round (n * 2 ^ f.scale) d < f.limit := units ▸ m.representable.2
    rw [dif_pos below]
    exact congrArg some (eq_of_units units)

theorem units_eq_zero_of_ofRatio? {m : Magnitude f} (found : ofRatio? f 0 1 = some m) : m.units = 0 := by
  rw [← ofRatio?_eq_some_iff.mp found]
  simp [Format.round, Format.nearestEven]

theorem ofDecimal?_eq (c : Nat) (e : Int) :
    ofDecimal? f c e =
      if c = 0 ∨ e + (Decimal.digits c).length ≤ -(f.scale + 1) then ofRatio? f 0 1
      else if (f.precision + f.top : Int) < e + (Decimal.digits c).length then none
      else ofRatio? f (c * 10 ^ e.toNat) (10 ^ (-e).toNat) := by
  unfold ofDecimal?
  dsimp only [Decimal.digits]
  congr 2
  split
  · rename_i negative
    have whole : e.toNat = 0 := by omega
    have below : e.natAbs = (-e).toNat := by omega
    rw [whole, below, Nat.pow_zero, Nat.mul_one]
  · rename_i negative
    have none : (-e).toNat = 0 := by omega
    have above : e.natAbs = e.toNat := by omega
    rw [none, above, Nat.pow_zero]

variable (m : Magnitude f)

theorem readsBack_zero (zero : m.units = 0) : m.ReadsBack ⟨0, 0⟩ := by
  have exact := m.ofRatio?_units
  rw [zero] at exact
  unfold ReadsBack
  rw [ofDecimal?_eq, if_pos (Or.inl rfl), ← exact]
  exact ofRatio?_congr (by decide) (Nat.two_pow_pos _) (by rw [Nat.zero_mul, Nat.zero_mul])

theorem readsBack_exactDecimal (pos : 0 < m.units) : m.ReadsBack m.exactDecimal := by
  have nonzero : 0 < m.units * 5 ^ f.scale := Nat.mul_pos pos (Nat.pow_pos (by decide))
  have bound : (Decimal.digits (m.units * 5 ^ f.scale)).length ≤ f.precision + f.top + f.scale := by
    have positive : 0 < f.precision + f.top + f.scale := by
      have := f.precision_pos
      omega
    refine (Nat.length_toDigits_le_iff (by decide) positive).mpr ?_
    have small : m.units < 10 ^ (f.precision + f.top) :=
      Nat.lt_of_lt_of_le m.representable.2 (Nat.pow_le_pow_left (by decide) _)
    calc m.units * 5 ^ f.scale < 10 ^ (f.precision + f.top) * 5 ^ f.scale :=
          Nat.mul_lt_mul_of_pos_right small (Nat.pow_pos (by decide))
      _ ≤ 10 ^ (f.precision + f.top) * 10 ^ f.scale :=
          Nat.mul_le_mul_left _ (Nat.pow_le_pow_left (by decide) _)
      _ = 10 ^ (f.precision + f.top + f.scale) := (Nat.pow_add _ _ _).symm
  have some : 0 < (Decimal.digits (m.units * 5 ^ f.scale)).length :=
    List.length_pos_iff.mpr (Decimal.digits_ne_nil _)
  unfold ReadsBack exactDecimal
  dsimp only
  rw [ofDecimal?_eq, if_neg (by omega), if_neg (by omega), ← m.ofRatio?_units]
  refine ofRatio?_congr (Nat.pow_pos (by decide)) (Nat.two_pow_pos _) ?_
  have whole : (-(f.scale : Int)).toNat = 0 := by omega
  have fraction : (-(-(f.scale : Int))).toNat = f.scale := by omega
  rw [whole, fraction, Nat.pow_zero, Nat.mul_one, Nat.mul_assoc, ← Nat.mul_pow]

theorem readsBack_of_decimalOfLength? {tie : Decimal.Tie} {count : Nat} {x : Decimal}
    (found : m.decimalOfLength? tie count = some x) : m.ReadsBack x := by
  unfold decimalOfLength? at found
  dsimp only at found
  split at found
  · rename_i below
    split at found
    · rename_i above
      exact Option.some.inj found ▸ above.1
    · exact Option.some.inj found ▸ below
  · split at found
    · rename_i above
      exact Option.some.inj found ▸ above
    · cases found

/-- The shortest decimal of a magnitude is read as this magnitude. -/
theorem shortest_readsBack (tie : Decimal.Tie) : m.ReadsBack (m.shortest tie) := by
  unfold shortest
  split
  · rename_i zero
    exact m.readsBack_zero zero
  · rename_i nonzero
    cases found : (List.range digitLimit).findSome? fun i => m.decimalOfLength? tie (i + 1) with
    | none => exact m.readsBack_exactDecimal (by omega)
    | some x =>
      obtain ⟨i, -, hit⟩ := List.exists_of_findSome?_eq_some found
      exact m.readsBack_of_decimalOfLength? hit

theorem units_eq_zero_of_readsBack {x : Decimal} (back : m.ReadsBack x) (zero : x.coefficient = 0) :
    m.units = 0 := by
  unfold ReadsBack at back
  rw [ofDecimal?_eq, if_pos (Or.inl zero)] at back
  exact units_eq_zero_of_ofRatio? back

variable {m}

/-- A decimal that reads back rounds to the magnitude as a ratio, its point being near the first digit. -/
theorem ReadsBack.ratio {x : Decimal} (back : m.ReadsBack x) (pos : 0 < m.units) :
    (-(f.scale + 1) < x.exponent + (Decimal.digits x.coefficient).length ∧
      x.exponent + (Decimal.digits x.coefficient).length ≤ (f.precision + f.top : Int)) ∧
      ofRatio? f (x.coefficient * 10 ^ x.exponent.toNat) (10 ^ (-x.exponent).toNat) = some m := by
  unfold ReadsBack at back
  rw [ofDecimal?_eq] at back
  split at back
  · have zero := units_eq_zero_of_ofRatio? back
    omega
  · rename_i far
    split at back
    · cases back
    · exact ⟨⟨by omega, by omega⟩, back⟩

theorem ReadsBack.value_le {x : Decimal} (back : m.ReadsBack x) (pos : 0 < m.units) :
    x.value * (2 * 2 ^ f.scale : ℕ) ≤ (2 * m.units + 2 ^ f.top : ℕ) := by
  have rounded := ofRatio?_eq_some_iff.mp (back.ratio pos).2
  have ten : 0 < 10 ^ (-x.exponent).toNat := Nat.pow_pos (by decide)
  have half := f.two_mul_le_round (n := x.coefficient * 10 ^ x.exponent.toNat * 2 ^ f.scale) ten
  have coarsest := Nat.pow_le_pow_right Nat.two_pos
    (f.gridExponent_le_top (rounded.trans_lt m.representable.2))
  rw [rounded] at half
  have whole := half.trans (Nat.mul_le_mul_right _ (Nat.add_le_add_left coarsest _))
  have positive : (0 : ℚ) < (10 ^ (-x.exponent).toNat : ℕ) := Nat.cast_pos.mpr ten
  calc x.value * (2 * 2 ^ f.scale : ℕ)
      = (2 * (x.coefficient * 10 ^ x.exponent.toNat * 2 ^ f.scale) : ℕ) / (10 ^ (-x.exponent).toNat : ℕ) := by
        rw [x.value_eq_div]
        push_cast
        ring
    _ ≤ (2 * m.units + 2 ^ f.top : ℕ) := by
        rw [div_le_iff₀ positive]
        exact_mod_cast whole

end Magnitude
end EdgeAlert
