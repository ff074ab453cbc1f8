import EdgeAlert.Power

/-!
# Binary floating-point formats

A format fixes how many significant bits a number has and how fine its grid is. Magnitudes are
counted in *units*, the format's smallest positive number, so that every finite magnitude is a
natural number and rounding is exact integer arithmetic. `round_representable` says that rounding
lands on the grid, `round_of_representable` that it leaves the grid alone.
-/

namespace EdgeAlert

/-- The parameters of a binary format: `precision` significant bits, a unit of `2 ^ -scale`, and
finite magnitudes below `2 ^ (precision + top)` units. -/
structure Format where
  precision : Nat
  scale : Nat
  top : Nat
  precision_pos : 0 < precision := by decide
  deriving DecidableEq

namespace Format

def single : Format := { precision := 24, scale := 149, top := 253 }

def double : Format := { precision := 53, scale := 1074, top := 2045 }

def limit (f : Format) : Nat := 2 ^ (f.precision + f.top)

def gridExponent (f : Format) (k : Nat) : Nat := k.log2 + 1 - f.precision

def Representable (f : Format) (k : Nat) : Prop := 2 ^ f.gridExponent k ∣ k ∧ k < f.limit

instance (f : Format) (k : Nat) : Decidable (f.Representable k) :=
  inferInstanceAs (Decidable (_ ∧ _))

/-- The integer nearest to `n / d`; a half goes to the even neighbour. -/
def nearestEven (n d : Nat) : Nat :=
  if 2 * (n % d) < d then n / d
  else if d < 2 * (n % d) then n / d + 1
  else n / d + n / d % 2

theorem le_nearestEven (n d : Nat) : n / d ≤ nearestEven n d := by
  unfold nearestEven; split
  · exact Nat.le_refl _
  · split <;> omega

theorem nearestEven_le (n d : Nat) : nearestEven n d ≤ n / d + 1 := by
  unfold nearestEven; split
  · omega
  · split <;> omega

theorem nearestEven_of_dvd {n d : Nat} (pos : 0 < d) (h : d ∣ n) : nearestEven n d = n / d := by
  have hm : n % d = 0 := Nat.mod_eq_zero_of_dvd h
  simp [nearestEven, hm, pos]

def round (f : Format) (n d : Nat) : Nat :=
  let e := f.gridExponent (n / d)
  nearestEven n (d * 2 ^ e) * 2 ^ e

def ofNat (f : Format) (n : Nat) : Nat := f.round (n * 2 ^ f.scale) 1

/-- The product of two numbers, all three in units. -/
def product (f : Format) (a b : Nat) : Nat := f.round (a * b) (2 ^ f.scale)

def quotient (f : Format) (a b : Nat) : Nat := f.round (a * 2 ^ f.scale) b

theorem nearestEven_grid_le (f : Format) (n d : Nat) :
    nearestEven n (d * 2 ^ f.gridExponent (n / d)) ≤ 2 ^ f.precision := by
  have hlt : n / (d * 2 ^ f.gridExponent (n / d)) < 2 ^ f.precision := by
    rw [← Nat.div_div_eq_div_mul, Nat.div_lt_iff_lt_mul (Nat.two_pow_pos _), ← Nat.pow_add]
    refine Nat.lt_of_lt_of_le Nat.lt_log2_self (Nat.pow_le_pow_right (by decide) ?_)
    unfold gridExponent; omega
  have := nearestEven_le n (d * 2 ^ f.gridExponent (n / d))
  omega

theorem gridExponent_mul_le (f : Format) {r e : Nat} (h : r < 2 ^ f.precision) :
    f.gridExponent (r * 2 ^ e) ≤ e := by
  unfold gridExponent
  rcases Nat.eq_zero_or_pos r with rfl | hr
  · have := f.precision_pos; simp; omega
  · have hk : r * 2 ^ e ≠ 0 := Nat.mul_ne_zero (by omega) (Nat.ne_of_gt (Nat.two_pow_pos _))
    have : (r * 2 ^ e).log2 < f.precision + e := by
      rw [Nat.log2_lt hk, Nat.pow_add]
      exact Nat.mul_lt_mul_of_pos_right h (Nat.two_pow_pos _)
    omega

theorem round_representable (f : Format) (n d : Nat) (h : f.round n d < f.limit) :
    f.Representable (f.round n d) := by
  refine ⟨?_, h⟩
  have hp := f.precision_pos
  have hle := nearestEven_grid_le f n d
  unfold round
  simp only
  generalize nearestEven n (d * 2 ^ f.gridExponent (n / d)) = r at hle
  generalize f.gridExponent (n / d) = e
  rcases Nat.lt_or_eq_of_le hle with hlt | rfl
  · exact Nat.dvd_trans (Nat.pow_dvd_pow 2 (gridExponent_mul_le f hlt)) (Nat.dvd_mul_left _ _)
  · rw [← Nat.pow_add]
    apply Nat.pow_dvd_pow
    simp [gridExponent, Nat.log2_two_pow]
    omega

theorem round_of_representable (f : Format) {k : Nat} (h : f.Representable k) :
    f.round k 1 = k := by
  unfold round
  simp only [Nat.div_one, Nat.one_mul]
  rw [nearestEven_of_dvd (Nat.two_pow_pos _) h.1]
  exact Nat.div_mul_cancel h.1

theorem round_mul_right (f : Format) (n d : Nat) {c : Nat} (hc : 0 < c) :
    f.round (n * c) (d * c) = f.round n d := by
  have hq : n * c / (d * c) = n / d := Nat.mul_div_mul_right n d hc
  unfold round
  simp only [hq]
  congr 1
  have hd : d * c * 2 ^ f.gridExponent (n / d) = d * 2 ^ f.gridExponent (n / d) * c := by
    rw [Nat.mul_assoc, Nat.mul_comm c, ← Nat.mul_assoc]
  rw [hd]
  generalize d * 2 ^ f.gridExponent (n / d) = m
  unfold nearestEven
  rw [Nat.mul_mod_mul_right, Nat.mul_div_mul_right _ _ hc, ← Nat.mul_assoc]
  have h1 : (2 * (n % m) * c < m * c) = (2 * (n % m) < m) :=
    propext (Nat.mul_lt_mul_right hc)
  have h2 : (m * c < 2 * (n % m) * c) = (m < 2 * (n % m)) :=
    propext (Nat.mul_lt_mul_right hc)
  simp only [h1, h2]

end Format
end EdgeAlert
