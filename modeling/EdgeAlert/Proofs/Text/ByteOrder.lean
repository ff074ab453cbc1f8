import EdgeAlert.Proofs.Text.Utf8

/-!
# The order of texts in bytes

Texts are ordered character by character. `bytes_lt`: this is the order of their bytes in UTF-8, since
of two characters the larger one has the larger byte where their bytes first differ.
-/

namespace EdgeAlert.Text

variable {m n k mark : Nat} {xs ys : List UInt8}

theorem ofNat_cons_lt (low : m < 256) (high : n < 256) :
    UInt8.ofNat m :: xs < UInt8.ofNat n :: ys ↔ m < n ∨ m = n ∧ xs < ys := by
  have same : UInt8.ofNat m = UInt8.ofNat n ↔ m = n := by
    rw [← UInt8.toNat_inj, UInt8.toNat_ofNat_of_lt' low, UInt8.toNat_ofNat_of_lt' high]
  rw [List.cons_lt_cons_iff, UInt8.ofNat_lt_iff_lt low high, same]

def followers : Nat → Nat → List UInt8
  | 0, _ => []
  | k + 1, n => UInt8.ofNat (n / 64 ^ k % 64 + 128) :: followers k n

theorem followers_lt (less : m < n) (same : m / 64 ^ k = n / 64 ^ k) :
    followers k m ++ xs < followers k n ++ ys := by
  induction k with
  | zero =>
    rw [Nat.pow_zero, Nat.div_one, Nat.div_one] at same
    omega
  | succ k ih =>
    rw [Nat.pow_succ, ← Nat.div_div_eq_div_mul, ← Nat.div_div_eq_div_mul] at same
    rw [followers, followers, List.cons_append, List.cons_append, ofNat_cons_lt (by omega) (by omega)]
    -- The digits above are the same, so this digit decides or is the same as well.
    have above : m / 64 ^ k ≤ n / 64 ^ k := Nat.div_le_div_right (Nat.le_of_lt less)
    rcases Nat.lt_or_eq_of_le above with digit | digit
    · exact Or.inl (by omega)
    · exact Or.inr ⟨by omega, ih digit⟩

/-- What is added to the first byte of a character, and how many bytes follow it. -/
inductive Lead (n : Nat) : Nat → Nat → Prop where
  | one (range : n < 128) : Lead n 0 0
  | two (range : 128 ≤ n ∧ n < 2048) : Lead n 192 1
  | three (range : 2048 ≤ n ∧ n < 65536) : Lead n 224 2
  | four (range : 65536 ≤ n ∧ n < 1114112) : Lead n 240 3

theorem Lead.bound (lead : Lead n mark k) : mark + n / 64 ^ k < 256 := by
  cases lead <;> omega

theorem Lead.first_lt {mark' k' : Nat} (lead : Lead m mark k) (lead' : Lead n mark' k') (less : m < n) :
    mark + m / 64 ^ k < mark' + n / 64 ^ k' ∨ mark = mark' ∧ k = k' := by
  cases lead <;> cases lead' <;> omega

theorem encode_eq (c : Char) : ∃ mark k, Lead c.val.toNat mark k ∧
    String.utf8EncodeChar c =
      UInt8.ofNat (mark + c.val.toNat / 64 ^ k) :: followers k c.val.toNat := by
  have top : c.val.toNat < 1114112 := by
    have valid := c.valid
    unfold UInt32.isValidChar Nat.isValidChar at valid
    omega
  unfold String.utf8EncodeChar
  dsimp only
  generalize c.val.toNat = n at top
  by_cases one : n ≤ 127
  · exact ⟨0, 0, .one (by omega), by simp [one, followers]⟩
  · by_cases two : n ≤ 2047
    · have digit : n / 64 % 32 + 192 = 192 + n / 64 ^ 1 := by omega
      exact ⟨192, 1, .two (by omega), by simp [one, two, digit, followers]⟩
    · by_cases three : n ≤ 65535
      · have digit : n / 4096 % 16 + 224 = 224 + n / 64 ^ 2 := by omega
        exact ⟨224, 2, .three (by omega), by simp [one, two, three, digit, followers]⟩
      · have digit : n / 262144 % 8 + 240 = 240 + n / 64 ^ 3 := by omega
        exact ⟨240, 3, .four (by omega), by simp [one, two, three, digit, followers]⟩

/-- The bytes of the smaller character come first, whatever follows. -/
theorem encode_lt {c d : Char} (less : c < d) (xs ys : List UInt8) :
    String.utf8EncodeChar c ++ xs < String.utf8EncodeChar d ++ ys := by
  have values : c.val.toNat < d.val.toNat := less
  obtain ⟨mark, k, lead, first⟩ := encode_eq c
  obtain ⟨mark', k', lead', second⟩ := encode_eq d
  rw [first, second, List.cons_append, List.cons_append, ofNat_cons_lt lead.bound lead'.bound]
  rcases lead.first_lt lead' values with smaller | ⟨rfl, rfl⟩
  · exact Or.inl smaller
  · have above : c.val.toNat / 64 ^ k ≤ d.val.toNat / 64 ^ k := Nat.div_le_div_right (Nat.le_of_lt values)
    rcases Nat.lt_or_eq_of_le above with digit | digit
    · exact Or.inl (by omega)
    · exact Or.inr ⟨by omega, followers_lt values digit⟩

theorem flatMap_encode_lt {cs ds : List Char} (less : cs < ds) :
    cs.flatMap String.utf8EncodeChar < ds.flatMap String.utf8EncodeChar := by
  induction cs generalizing ds with
  | nil =>
    cases ds with
    | nil => exact absurd less (List.lt_irrefl _)
    | cons d ds =>
      obtain ⟨mark, k, -, first⟩ := encode_eq d
      rw [List.flatMap_nil, List.flatMap_cons, first]
      exact List.nil_lt_cons _ _
  | cons c cs ih =>
    cases ds with
    | nil => exact absurd less (List.not_lt_nil _)
    | cons d ds =>
      rw [List.flatMap_cons, List.flatMap_cons]
      rcases List.cons_lt_cons_iff.mp less with smaller | ⟨rfl, rest⟩
      · exact encode_lt smaller _ _
      · exact List.append_left_lt (ih rest)

theorem bytes_lt {a b : String} (less : a < b) : a.toUTF8.toList < b.toUTF8.toList := by
  rw [bytes_eq, bytes_eq]
  exact flatMap_encode_lt less

end EdgeAlert.Text
