import Mathlib.Data.List.DropRight
import EdgeAlert.Proofs.Decimal.Digits
import EdgeAlert.Text.Blank

/-!
# Spellings of integers

An integer is spelled by its digits, perhaps with zeros in front of them, a sign in front of those, and
white space on both sides. `spells_iff`: these are the texts that are read as the integer.
-/

namespace EdgeAlert

namespace Text

variable {before cs after : List Char}

theorem trim_surrounded (blank : ∀ c ∈ before ++ after, isBlank c = true) (nonempty : cs ≠ [])
    (dark : ∀ c ∈ cs, isBlank c = false) : trim (before ++ cs ++ after) = cs := by
  have kept : ∀ xs more : List Char, xs ≠ [] → (∀ c ∈ xs, isBlank c = false) →
      (xs ++ more).dropWhile isBlank = xs ++ more := by
    intro xs more nonempty dark
    obtain ⟨c, rest, rfl⟩ := List.exists_cons_of_ne_nil nonempty
    rw [List.cons_append, List.dropWhile_cons_of_neg]
    simp [dark c]
  have start : trimStart (before ++ cs ++ after) = cs ++ after := by
    unfold trimStart
    rw [List.append_assoc, List.dropWhile_append_of_pos fun c member => blank c (by simp [member])]
    exact kept cs after nonempty dark
  have left : after.reverse.dropWhile isBlank = [] :=
    List.dropWhile_eq_nil_iff.mpr fun c member => blank c (by simp_all)
  have reversed := kept cs.reverse [] (by simpa using nonempty) (by simpa using dark)
  rw [trim, start, trimEnd, List.reverse_append, List.dropWhile_append, left]
  simpa using congrArg List.reverse reversed

theorem exists_trim (cs : List Char) :
    ∃ before after, cs = before ++ trim cs ++ after ∧ ∀ c ∈ before ++ after, isBlank c = true := by
  refine ⟨cs.takeWhile isBlank, ((trimStart cs).reverse.takeWhile isBlank).reverse, ?_, ?_⟩
  · have back : trim cs ++ ((trimStart cs).reverse.takeWhile isBlank).reverse = trimStart cs := by
      rw [trim, trimEnd, ← List.reverse_append, List.takeWhile_append_dropWhile, List.reverse_reverse]
    rw [List.append_assoc, back]
    exact List.takeWhile_append_dropWhile.symm
  · intro c member
    rcases List.mem_append.mp member with front | back
    · exact List.mem_takeWhile_imp front
    · exact List.mem_takeWhile_imp (List.mem_reverse.mp back)

end Text

namespace Decimal

open Text

variable {cs ds text : List Char} {c : Char} {n : Nat} {i : Int}

theorem digitChar_digitValue (digit : isDigit c) : Nat.digitChar (digitValue c) = c := by
  simp only [isDigit, Bool.and_eq_true, decide_eq_true_eq, Char.le_def] at digit
  have bounds : 48 ≤ c.toNat ∧ c.toNat ≤ 57 := digit
  have value : digitValue c = c.toNat - 48 := rfl
  apply Char.toNat_inj.mp
  rw [Nat.toNat_digitChar_of_lt_ten (by omega), value]
  omega

theorem digitValue_lt (digit : isDigit c) : digitValue c < 10 := by
  simp only [isDigit, Bool.and_eq_true, decide_eq_true_eq, Char.le_def] at digit
  have bounds : 48 ≤ c.toNat ∧ c.toNat ≤ 57 := digit
  have value : digitValue c = c.toNat - 48 := rfl
  omega

theorem exists_zeros (nonempty : ds ≠ []) (digits : ds.all isDigit) :
    ∃ zeros, ds = List.replicate zeros '0' ++ Decimal.digits (readNat ds) := by
  induction ds using List.reverseRecOn with
  | nil => exact absurd rfl nonempty
  | append_singleton front d ih =>
    rw [List.all_append, Bool.and_eq_true] at digits
    obtain ⟨fronts, last⟩ := digits
    have digit : isDigit d := by simpa using last
    have small := digitValue_lt digit
    have single : Decimal.digits (digitValue d) = [d] := by
      rw [digits_of_lt small, digitChar_digitValue digit]
    rw [readNat_append]
    by_cases none : front = []
    · refine ⟨0, ?_⟩
      subst front
      simpa [readNat] using single.symm
    · obtain ⟨zeros, spelled⟩ := ih none fronts
      rcases Nat.eq_zero_or_pos (readNat front) with zero | pos
      · refine ⟨zeros + 1, ?_⟩
        have nought : Decimal.digits 0 = ['0'] := by decide
        rw [zero, nought] at spelled
        rw [zero, Nat.mul_zero, Nat.zero_add, single, List.replicate_succ', spelled]
      · refine ⟨zeros, ?_⟩
        have whole : (10 * readNat front + digitValue d) / 10 = readNat front := by omega
        have unit : (10 * readNat front + digitValue d) % 10 = digitValue d := by omega
        rw [digits_of_ge (by omega), whole, unit, digitChar_digitValue digit, ← List.append_assoc, ← spelled]

theorem readNat?_eq_some_iff :
    readNat? ds = some n ↔ ∃ zeros, ds = List.replicate zeros '0' ++ digits n := by
  unfold readNat?
  constructor
  · intro read
    split at read
    · rename_i run
      cases read
      exact exists_zeros run.1 run.2
    · cases read
  · rintro ⟨zeros, rfl⟩
    obtain ⟨all, value⟩ := readNat_digits n
    rw [if_pos, readNat_zeros_append, value]
    refine ⟨by simp [digits_ne_nil], ?_⟩
    rw [List.all_append, all_replicate_zero, all, Bool.and_self]

/-! ### Numerals -/

/-- The digits of an integer with a sign, which may be left out unless it is a minus. -/
inductive Numeral : List Char → Int → Prop where
  | plain (zeros n : Nat) : Numeral (List.replicate zeros '0' ++ digits n) n
  | plus (zeros n : Nat) : Numeral ('+' :: (List.replicate zeros '0' ++ digits n)) n
  | minus (zeros n : Nat) : Numeral ('-' :: (List.replicate zeros '0' ++ digits n)) (-n)

theorem isDigit_of_mem_run (zeros n : Nat) (member : c ∈ List.replicate zeros '0' ++ digits n) :
    isDigit c = true := by
  rcases List.mem_append.mp member with zero | digit
  · rw [List.eq_of_mem_replicate zero]
    decide
  · exact List.all_eq_true.mp (readNat_digits n).1 c digit

theorem readInt?_eq_some_iff : readInt? cs = some i ↔ Numeral cs i := by
  constructor
  · intro read
    unfold readInt? at read
    split at read
    · obtain ⟨value, lifted, rfl⟩ := Option.map_eq_some_iff.mp read
      obtain ⟨n, found, whole⟩ := Option.bind_eq_some_iff.mp lifted
      obtain ⟨zeros, rfl⟩ := readNat?_eq_some_iff.mp found
      rw [← Option.some.inj whole]
      exact .minus zeros n
    · obtain ⟨n, found, rfl⟩ := Option.map_eq_some_iff.mp read
      obtain ⟨zeros, rfl⟩ := readNat?_eq_some_iff.mp found
      exact .plus zeros n
    · obtain ⟨n, found, rfl⟩ := Option.map_eq_some_iff.mp read
      obtain ⟨zeros, rfl⟩ := readNat?_eq_some_iff.mp found
      exact .plain zeros n
  · intro numeral
    cases numeral with
    | plain zeros n =>
      have read : readNat? (List.replicate zeros '0' ++ digits n) = some n :=
        readNat?_eq_some_iff.mpr ⟨zeros, rfl⟩
      have signless : ∀ c ∈ List.replicate zeros '0' ++ digits n, c ≠ '-' ∧ c ≠ '+' := by
        intro c member
        have digit := isDigit_of_mem_run zeros n member
        constructor
        all_goals
          rintro rfl
          exact absurd digit (by decide)
      generalize List.replicate zeros '0' ++ digits n = run at read signless
      unfold readInt?
      split
      · exact absurd rfl (signless '-' (by simp)).1
      · exact absurd rfl (signless '+' (by simp)).2
      · rw [read]
        rfl
    | plus zeros n =>
      show (readNat? _).map Int.ofNat = _
      rw [readNat?_eq_some_iff.mpr ⟨zeros, rfl⟩]
      rfl
    | minus zeros n =>
      have read : readNat? (List.replicate zeros '0' ++ digits n) = some n :=
        readNat?_eq_some_iff.mpr ⟨zeros, rfl⟩
      simp [readInt?, read]

theorem Numeral.nonempty (numeral : Numeral cs i) : cs ≠ [] := by
  cases numeral <;> simp [digits_ne_nil]

theorem Numeral.mem (numeral : Numeral cs i) (member : c ∈ cs) : c = '+' ∨ c = '-' ∨ isDigit c = true := by
  cases numeral with
  | plain zeros n => exact Or.inr (Or.inr (isDigit_of_mem_run zeros n member))
  | plus zeros n =>
    rcases List.mem_cons.mp member with sign | member
    · exact Or.inl sign
    · exact Or.inr (Or.inr (isDigit_of_mem_run zeros n member))
  | minus zeros n =>
    rcases List.mem_cons.mp member with sign | member
    · exact Or.inr (Or.inl sign)
    · exact Or.inr (Or.inr (isDigit_of_mem_run zeros n member))

theorem isBlank_of_isDigit (digit : isDigit c = true) : isBlank c = false := by
  simp only [isDigit, Bool.and_eq_true, decide_eq_true_eq, Char.le_def] at digit
  have bounds : 48 ≤ c.toNat ∧ c.toNat ≤ 57 := digit
  simp only [isBlank, Bool.or_eq_false_iff, Bool.and_eq_false_iff, decide_eq_false_iff_not]
  omega

theorem Numeral.dark (numeral : Numeral cs i) (member : c ∈ cs) : isBlank c = false := by
  rcases numeral.mem member with rfl | rfl | digit
  · decide
  · decide
  · exact isBlank_of_isDigit digit

/-! ### Spellings -/

/-- The text spells the integer, perhaps with white space around it. -/
def Spells (text : List Char) (i : Int) : Prop :=
  ∃ before numeral after, text = before ++ numeral ++ after ∧
    (∀ c ∈ before ++ after, isBlank c = true) ∧ Numeral numeral i

theorem spells_iff : Spells text i ↔ readInt? (trim text) = some i := by
  constructor
  · rintro ⟨before, cs, after, rfl, blank, numeral⟩
    rw [trim_surrounded blank numeral.nonempty fun c => numeral.dark]
    exact readInt?_eq_some_iff.mpr numeral
  · intro read
    obtain ⟨before, after, split, blank⟩ := exists_trim text
    exact ⟨before, trim text, after, split, blank, readInt?_eq_some_iff.mp read⟩

theorem Spells.mem (spells : Spells text i) (member : c ∈ text) :
    isBlank c = true ∨ c = '+' ∨ c = '-' ∨ isDigit c = true := by
  obtain ⟨before, cs, after, rfl, blank, numeral⟩ := spells
  rw [List.mem_append, List.mem_append] at member
  rcases member with (front | here) | back
  · exact Or.inl (blank c (List.mem_append_left _ front))
  · exact Or.inr (numeral.mem here)
  · exact Or.inl (blank c (List.mem_append_right _ back))

theorem Spells.nonempty (spells : Spells text i) : text ≠ [] := by
  obtain ⟨before, cs, after, rfl, -, numeral⟩ := spells
  simp [numeral.nonempty]

theorem numeral_writeInt (i : Int) : Numeral (writeInt i) i := by
  unfold writeInt
  split
  · have negative : i = -(i.natAbs : Int) := by omega
    have spelled := Numeral.minus 0 i.natAbs
    rwa [← negative] at spelled
  · have positive : i = i.natAbs := by omega
    have spelled := Numeral.plain 0 i.natAbs
    rwa [← positive] at spelled

theorem spells_writeInt (i : Int) : Spells (writeInt i) i :=
  ⟨[], writeInt i, [], by simp, by simp, numeral_writeInt i⟩

theorem trim_writeInt (i : Int) : trim (writeInt i) = writeInt i := by
  have none : ∀ c ∈ ([] : List Char) ++ [], isBlank c = true := by simp
  simpa using trim_surrounded none (numeral_writeInt i).nonempty fun c => (numeral_writeInt i).dark

/-- A reader of integers of some width takes the spellings of those that fit it. -/
theorem readSigned?_trim (bits : Nat) (spells : Spells text i)
    (fits : -2 ^ (bits - 1) ≤ i ∧ i < 2 ^ (bits - 1)) :
    readSigned? bits (trim text) = some ⟨i, fits⟩ := by
  rw [readSigned?, spells_iff.mp spells, Option.bind_some, Signed.ofInt?, dif_pos fits]

end Decimal
end EdgeAlert
