import Mathlib.Data.Nat.Log
import Mathlib.Tactic.Linarith
import Mathlib.Tactic.Ring
import EdgeAlert.Binary.Format

/-!
# Rounding and order

Rounding keeps the order of ratios and moves none of them by more than half a step of its grid.
-/

namespace EdgeAlert.Format

variable {f : Format} {n n' d : Nat}

theorem nearestEven_mono (le : n ≤ n') : nearestEven n d ≤ nearestEven n' d := by
  have quotients : n / d ≤ n' / d := Nat.div_le_div_right le
  rcases Nat.lt_or_eq_of_le quotients with below | same
  · have upper := nearestEven_le n d
    have lower := le_nearestEven n' d
    omega
  · -- Between the same two integers it is the rest that decides.
    have rests : n % d ≤ n' % d := by
      have whole := Nat.div_add_mod n d
      have whole' := Nat.div_add_mod n' d
      rw [same] at whole
      omega
    unfold nearestEven
    rw [same]
    split_ifs <;> omega

theorem two_pow_le_round (coarse : 0 < f.gridExponent (n / d)) :
    2 ^ (f.precision - 1 + f.gridExponent (n / d)) ≤ f.round n d := by
  have bits : f.precision - 1 + f.gridExponent (n / d) = (n / d).log2 := by
    have positive := f.precision_pos
    unfold gridExponent at coarse ⊢
    omega
  have some : n / d ≠ 0 := by
    intro none
    have positive := f.precision_pos
    rw [none, gridExponent, Nat.log2_zero] at coarse
    omega
  have leading : 2 ^ (f.precision - 1) ≤ n / (d * 2 ^ f.gridExponent (n / d)) := by
    rw [← Nat.div_div_eq_div_mul, Nat.le_div_iff_mul_le (Nat.two_pow_pos _), ← Nat.pow_add, bits]
    exact Nat.log2_self_le some
  rw [Nat.pow_add]
  exact Nat.mul_le_mul_right _ (leading.trans (le_nearestEven _ _))

theorem round_le_two_pow : f.round n d ≤ 2 ^ (f.precision + f.gridExponent (n / d)) := by
  rw [Nat.pow_add]
  exact Nat.mul_le_mul_right _ (nearestEven_grid_le f n d)

theorem gridExponent_mono {k k' : Nat} (le : k ≤ k') : f.gridExponent k ≤ f.gridExponent k' := by
  have logs : k.log2 ≤ k'.log2 := by
    rw [Nat.log2_eq_log_two, Nat.log2_eq_log_two]
    exact Nat.log_mono_right le
  unfold gridExponent
  omega

theorem round_mono (le : n ≤ n') : f.round n d ≤ f.round n' d := by
  have quotients : n / d ≤ n' / d := Nat.div_le_div_right le
  have grids : f.gridExponent (n / d) ≤ f.gridExponent (n' / d) := gridExponent_mono quotients
  rcases Nat.lt_or_eq_of_le grids with finer | same
  · -- A power of two lies between the two.
    have positive := f.precision_pos
    calc f.round n d ≤ 2 ^ (f.precision + f.gridExponent (n / d)) := round_le_two_pow
      _ ≤ 2 ^ (f.precision - 1 + f.gridExponent (n' / d)) := by
        apply Nat.pow_le_pow_right
        · decide
        · omega
      _ ≤ f.round n' d := two_pow_le_round (by omega)
  · unfold round
    rw [same]
    exact Nat.mul_le_mul_right _ (nearestEven_mono le)

theorem two_mul_le_nearestEven (pos : 0 < d) : 2 * n ≤ (2 * nearestEven n d + 1) * d := by
  have whole := Nat.div_add_mod n d
  have lower : n / d ≤ nearestEven n d := le_nearestEven n d
  by_cases up : d < 2 * (n % d)
  · have rest := Nat.mod_lt n pos
    have rounded : nearestEven n d = n / d + 1 := by
      rw [nearestEven, if_neg (by omega), if_pos up]
    rw [rounded]
    nlinarith
  · nlinarith

theorem two_mul_le_round (pos : 0 < d) :
    2 * n ≤ (2 * f.round n d + 2 ^ f.gridExponent (n / d)) * d := by
  have half := two_mul_le_nearestEven (n := n) (Nat.mul_pos pos (Nat.two_pow_pos (f.gridExponent (n / d))))
  calc 2 * n ≤ _ := half
    _ = (2 * f.round n d + 2 ^ f.gridExponent (n / d)) * d := by
      unfold round
      ring

theorem gridExponent_le_top (below : f.round n d < f.limit) : f.gridExponent (n / d) ≤ f.top := by
  rcases Nat.eq_zero_or_pos (f.gridExponent (n / d)) with fine | coarse
  · rw [fine]
    exact Nat.zero_le _
  · have powers : f.precision - 1 + f.gridExponent (n / d) < f.precision + f.top :=
      (Nat.pow_lt_pow_iff_right (by decide)).mp ((two_pow_le_round coarse).trans_lt below)
    omega

/-- There is nothing between the greatest number and the next one below it. -/
theorem Representable.le_of_ne {k : Nat} (grid : f.Representable k) (bits : 2 ≤ f.precision)
    (other : k ≠ (2 ^ f.precision - 1) * 2 ^ f.top) : k ≤ (2 ^ f.precision - 2) * 2 ^ f.top := by
  by_contra past
  have double : 2 ^ f.precision = 2 * 2 ^ (f.precision - 1) := by
    rw [← Nat.pow_succ']
    congr 1
    omega
  have two : 2 ^ 1 ≤ 2 ^ (f.precision - 1) := Nat.pow_le_pow_right Nat.two_pos (by omega)
  have leading : 2 ^ (f.precision - 1 + f.top) ≤ k := by
    rw [Nat.pow_add]
    refine (Nat.mul_le_mul_right _ ?_).trans (Nat.not_le.mp past).le
    omega
  have log : k.log2 = f.precision - 1 + f.top := by
    have some : k ≠ 0 := by
      rintro rfl
      exact past (Nat.zero_le _)
    refine (Nat.log2_eq_iff some).mpr ⟨leading, ?_⟩
    have next : f.precision - 1 + f.top + 1 = f.precision + f.top := by omega
    rw [next]
    exact grid.2
  have coarsest : f.gridExponent k = f.top := by
    unfold gridExponent
    omega
  -- So it is a whole number of steps of the coarsest grid.
  have steps := grid.1
  rw [coarsest] at steps
  obtain ⟨c, rfl⟩ := steps
  have positive : 0 < 2 ^ f.top := Nat.two_pow_pos _
  have below : c < 2 ^ f.precision := by
    have limit := grid.2
    rw [Format.limit, Nat.pow_add, Nat.mul_comm] at limit
    exact Nat.lt_of_mul_lt_mul_right limit
  have above : 2 ^ f.precision - 2 < c := by
    rw [Nat.mul_comm (2 ^ f.top)] at past
    exact Nat.lt_of_mul_lt_mul_right (Nat.not_le.mp past)
  have last : c = 2 ^ f.precision - 1 := by omega
  exact other (by rw [last, Nat.mul_comm])

/-! ### Products and quotients -/

variable {a b : Nat}

theorem ofNat_mono {k k' : Nat} (le : k ≤ k') : f.ofNat k ≤ f.ofNat k' :=
  round_mono (Nat.mul_le_mul_right _ le)

theorem product_mono {a' b' : Nat} (left : a ≤ a') (right : b ≤ b') : f.product a b ≤ f.product a' b' :=
  round_mono (Nat.mul_le_mul left right)

/-- A number is not made greater when it is divided by one or more. -/
theorem quotient_le (grid : f.Representable a) (large : 2 ^ f.scale ≤ b) : f.quotient a b ≤ a := by
  have pos : 0 < b := (Nat.two_pow_pos _).trans_le large
  calc f.quotient a b ≤ f.round (a * b) (1 * b) := by
        rw [Nat.one_mul]
        exact round_mono (Nat.mul_le_mul_left a large)
    _ = f.round a 1 := f.round_mul_right a 1 pos
    _ = a := f.round_of_representable grid

theorem quotient_representable (grid : f.Representable a) (large : 2 ^ f.scale ≤ b) :
    f.Representable (f.quotient a b) :=
  f.round_representable _ _ ((quotient_le grid large).trans_lt grid.2)

end EdgeAlert.Format
