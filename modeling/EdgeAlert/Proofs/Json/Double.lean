import EdgeAlert.Json.Syntax
import EdgeAlert.Proofs.Decimal.Digits
import EdgeAlert.Proofs.Decimal.ReadBack

/-!
# Doubles that are found

The digits that a reader passes over only make a number smaller. So it finds a double for every spelling
of a number that is not past the middle between the two greatest ones.
-/

namespace EdgeAlert

theorem Magnitude.isSome_ofUnits? {f : Format} {units : Nat} (grid : f.Representable units) :
    (ofUnits? f units).isSome := by
  rw [ofUnits?, dif_pos grid]
  rfl

namespace Json

variable {n k : Nat} {e : Int} {x : Decimal} {ds : List Char}

/-! ### The significand -/

section Digits

variable {limit : Nat}

theorem pushDigit?_eq_some_iff {next : Nat} {c : Char} :
    pushDigit? limit n c = some next ↔ 10 * n + Decimal.digitValue c = next ∧ next < limit := by
  unfold pushDigit?
  dsimp only
  split
  · rw [Option.some.injEq]
    omega
  · constructor
    · exact nofun
    · omega

theorem takeWhole_of_lt (small : n * 10 ^ ds.length + Decimal.readNat ds < limit) :
    takeWhole limit n ds = ⟨n * 10 ^ ds.length + Decimal.readNat ds, 0⟩ := by
  induction ds generalizing n with
  | nil => rw [takeWhole, List.length_nil, Nat.pow_zero, Nat.mul_one]; rfl
  | cons d ds ih =>
    have value : n * 10 ^ (d :: ds).length + Decimal.readNat (d :: ds) =
        (10 * n + Decimal.digitValue d) * 10 ^ ds.length + Decimal.readNat ds := by
      rw [Decimal.readNat_cons, List.length_cons]
      ring
    rw [value] at small ⊢
    have fits : 10 * n + Decimal.digitValue d < limit := by
      have scaled := Nat.le_mul_of_pos_right (10 * n + Decimal.digitValue d)
        (Nat.pow_pos (n := ds.length) (by decide : 0 < 10))
      omega
    rw [takeWhole, pushDigit?_eq_some_iff.mpr ⟨rfl, fits⟩]
    exact ih small

theorem takeFraction_coefficient (small : x.coefficient < limit) :
    (takeFraction limit x ds).coefficient < limit := by
  induction ds generalizing x with
  | nil => exact small
  | cons d ds ih =>
    unfold takeFraction
    split
    · rename_i next pushed
      exact ih (pushDigit?_eq_some_iff.mp pushed).2
    · exact small

theorem takeFraction_value_le (x : Decimal) (ds : List Char) :
    (takeFraction limit x ds).value ≤
      (x.coefficient * 10 ^ ds.length + Decimal.readNat ds : ℕ) * 10 ^ (x.exponent - ds.length) := by
  induction ds generalizing x with
  | nil => simp [takeFraction, Decimal.value, Decimal.readNat]
  | cons d ds ih =>
    unfold takeFraction
    split
    · rename_i next pushed
      obtain ⟨rfl, -⟩ := pushDigit?_eq_some_iff.mp pushed
      have step : x.exponent - 1 - ds.length = x.exponent - (d :: ds).length := by
        rw [List.length_cons]
        omega
      calc _ ≤ _ := ih _
        _ = _ := by
          rw [step, Decimal.readNat_cons, List.length_cons]
          push_cast
          ring
    · -- What is left out is not negative.
      rw [← x.value_scale (d :: ds).length]
      refine mul_le_mul_of_nonneg_right ?_ (zpow_nonneg (by norm_num) _)
      exact_mod_cast Nat.le_add_right _ _

end Digits

namespace NumberText

variable {t : NumberText}

def value (t : NumberText) : ℚ :=
  Decimal.readNat (t.whole ++ t.fraction.getD []) * 10 ^ (t.exponent.getD 0 - (t.fraction.getD []).length)

theorem significand_spec (whole : Decimal.readNat t.whole < significandLimit) :
    t.significand.coefficient < significandLimit ∧
      t.significand.value * 10 ^ t.exponent.getD 0 ≤ t.value := by
  have start : takeWhole significandLimit 0 t.whole = ⟨Decimal.readNat t.whole, 0⟩ := by
    have taken := @takeWhole_of_lt 0 t.whole significandLimit (by rwa [Nat.zero_mul, Nat.zero_add])
    rwa [Nat.zero_mul, Nat.zero_add] at taken
  rw [significand, start]
  refine ⟨takeFraction_coefficient whole, ?_⟩
  have taken := @takeFraction_value_le significandLimit ⟨Decimal.readNat t.whole, 0⟩ (t.fraction.getD [])
  rw [← Decimal.readNat_appendDigits] at taken
  have power : (0 : ℚ) ≤ 10 ^ t.exponent.getD 0 := zpow_nonneg (by norm_num) _
  refine (mul_le_mul_of_nonneg_right taken power).trans_eq ?_
  rw [value, mul_assoc, ← zpow_add₀ (by norm_num)]
  congr 2
  dsimp only
  omega

end NumberText

/-! ### The double -/

theorem one_le_power (k : Nat) : 2 ^ Format.double.scale ≤ power k :=
  calc 2 ^ Format.double.scale = Format.double.ofNat 1 := by decide +kernel
    _ ≤ power k := Format.ofNat_mono (Nat.pow_pos (by decide))

theorem shrink_representable {units : Nat} (grid : Format.double.Representable units)
    (times : Nat) : Format.double.Representable (shrink units times) := by
  induction times generalizing units with
  | zero => exact grid
  | succ times ih =>
    unfold shrink
    split
    · decide +kernel
    · exact ih (Format.quotient_representable grid (one_le_power greatestPower))

theorem ofNat_representable (small : n < significandLimit) :
    Format.double.Representable (Format.double.ofNat n) := by
  refine Format.double.round_representable _ _ ?_
  calc Format.double.ofNat n ≤ Format.double.ofNat significandLimit := Format.ofNat_mono small.le
    _ < Format.double.limit := by decide +kernel

/-- The middle between the two greatest doubles. -/
def reach : Nat := (2 ^ 54 - 3) * 2 ^ 970

def reachUnder (k : Nat) : Nat := reach / 10 ^ k

theorem le_reachUnder : n ≤ reachUnder k ↔ n * 10 ^ k ≤ reach :=
  Nat.le_div_iff_mul_le (Nat.pow_pos (by decide))

theorem product_reachUnder : ∀ k < 309, 288 ≤ k →
    Format.double.product (Format.double.ofNat (reachUnder k)) (power k) < Format.double.limit := by
  decide +kernel

/-- No product of a significand and a power of ten goes out of range below the middle. -/
theorem product_lt_limit (small : n < significandLimit) (bound : k ≤ greatestPower)
    (inReach : n * 10 ^ k ≤ reach) :
    Format.double.product (Format.double.ofNat n) (power k) < Format.double.limit := by
  unfold greatestPower at bound
  obtain ⟨high, least, most, above, below⟩ :
      ∃ high, 288 ≤ high ∧ high < 309 ∧ n ≤ reachUnder high ∧ k ≤ high := by
    by_cases large : 288 ≤ k
    · exact ⟨k, large, by omega, le_reachUnder.mpr inReach, Nat.le_refl k⟩
    · -- Under a smaller power all significands are.
      have all : significandLimit ≤ reachUnder 288 := by decide +kernel
      exact ⟨288, by decide, by decide, small.le.trans all, by omega⟩
  calc Format.double.product (Format.double.ofNat n) (power k)
      ≤ Format.double.product (Format.double.ofNat (reachUnder high)) (power high) :=
        Format.product_mono (Format.ofNat_mono above)
          (Format.ofNat_mono (Nat.pow_le_pow_right (by decide) below))
    _ < Format.double.limit := product_reachUnder high most least

theorem isSome_ofParts? (small : n < significandLimit) (inReach : 0 ≤ e → n * 10 ^ e.toNat ≤ reach) :
    (ofParts? n e).isSome := by
  have grid := ofNat_representable small
  unfold ofParts?
  dsimp only
  split
  · exact Magnitude.isSome_ofUnits?
      (Format.quotient_representable (shrink_representable grid _) (one_le_power _))
  · have bound := inReach (by omega)
    split
    · have power : e.toNat ≤ greatestPower := by omega
      exact Magnitude.isSome_ofUnits?
        (Format.double.round_representable _ _ (product_lt_limit small power bound))
    · -- Past the greatest power of ten there is nothing but zero.
      have zero : n = 0 := by
        by_contra some
        have least : 10 ^ 309 ≤ 10 ^ e.toNat := by
          apply Nat.pow_le_pow_right
          · decide
          · unfold greatestPower at *
            omega
        have past : reach < 10 ^ 309 := by decide +kernel
        have once := Nat.le_mul_of_pos_left (10 ^ e.toNat) (Nat.pos_of_ne_zero some)
        exact absurd bound (Nat.not_le.mpr (past.trans_le (least.trans once)))
      have nothing : Format.double.ofNat 0 = 0 := by decide +kernel
      rw [zero, if_pos nothing]
      exact Magnitude.isSome_ofUnits? (by decide +kernel)

theorem NumberText.isSome_magnitude? {t : NumberText} (whole : Decimal.readNat t.whole < significandLimit)
    (exponent : (t.exponent.getD 0).natAbs < 0x80000000) (inReach : t.value ≤ reach) :
    t.magnitude?.isSome := by
  obtain ⟨small, value⟩ := significand_spec whole
  unfold magnitude?
  dsimp only
  rw [if_pos exponent]
  refine isSome_ofParts? small fun positive => ?_
  have natural : (t.significand.exponent + t.exponent.getD 0).toNat =
      t.significand.exponent + t.exponent.getD 0 := Int.toNat_of_nonneg positive
  have whole : ((t.significand.coefficient * 10 ^ (t.significand.exponent + t.exponent.getD 0).toNat : ℕ) : ℚ) =
      t.significand.value * 10 ^ t.exponent.getD 0 := by
    rw [Decimal.value, mul_assoc, ← zpow_add₀ (by norm_num), ← natural, zpow_natCast, natural]
    push_cast
    rfl
  exact_mod_cast whole.trans_le (value.trans inReach)

end Json
end EdgeAlert
