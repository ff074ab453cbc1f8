import EdgeAlert.Json.Reader
import EdgeAlert.Json.Writer
import EdgeAlert.Proofs.Json.Double

/-!
# Written numbers

Every number is written as the parts of a spelling, and the reader takes those parts off again.
`readNumber_write` says so of any spelling; `toJson?_ofDecimal` and `toJson?_ofInt` say that the
spellings of doubles and integers have the values that they are written for.
-/

namespace EdgeAlert.Json

namespace NumberText

def writeFraction : Option (List Char) → List Char
  | none => []
  | some ds => '.' :: ds

def writeExponent : Option Int → List Char
  | none => []
  | some e => 'e' :: (if e < 0 then '-' else '+') :: Decimal.digits e.natAbs

def write (t : NumberText) : List Char :=
  (if t.negative then ['-'] else []) ++ (t.whole ++ (writeFraction t.fraction ++ writeExponent t.exponent))

structure Canonical (t : NumberText) : Prop where
  whole_digits : t.whole.all Decimal.isDigit
  whole : t.whole = ['0'] ∨ ∃ d ds, t.whole = d :: ds ∧ d ≠ '0'
  fraction : ∀ ds ∈ t.fraction, ds ≠ [] ∧ ds.all Decimal.isDigit

def ofInt (i : Int) : NumberText := ⟨i < 0, Decimal.digits i.natAbs, none, none⟩

def ofDecimal (negative : Bool) (x : Decimal) : NumberText :=
  let ds := Decimal.digits x.coefficient
  let point := x.exponent + ds.length
  if doubleLayout.positional point then
    if point ≤ 0 then ⟨negative, ['0'], some (List.replicate point.natAbs '0' ++ ds), none⟩
    else if (ds.length : Int) ≤ point then
      ⟨negative, ds ++ List.replicate (point.toNat - ds.length) '0', some ['0'], none⟩
    else ⟨negative, ds.take point.toNat, some (ds.drop point.toNat), none⟩
  else ⟨negative, ds.take 1, if ds.length ≤ 1 then none else some (ds.drop 1), some (point - 1)⟩

end NumberText

/-! ### Reading a spelling -/

/-- A reader of numbers stops at this text. -/
def StopsNumber (more : List Char) : Prop :=
  ∀ c ∈ more.head?, Decimal.isDigit c = false ∧ c ≠ '.' ∧ c ≠ 'e' ∧ c ≠ 'E'

variable {t : NumberText} {ds more : List Char}

theorem readWhole_append (digits : ds.all Decimal.isDigit)
    (whole : ds = ['0'] ∨ ∃ d rest, ds = d :: rest ∧ d ≠ '0') (stops : Decimal.StopsDigits more) :
    readWhole (ds ++ more) = some (ds, more) := by
  rcases whole with rfl | ⟨d, rest, rfl, nonzero⟩
  · rfl
  · obtain ⟨taken, left⟩ := Decimal.takeWhile_digits digits stops
    rw [List.cons_append] at taken left ⊢
    unfold readWhole
    split
    · rename_i same
      exact absurd (List.cons.inj same).1 nonzero
    · dsimp only
      rw [taken, left, if_neg (List.cons_ne_nil _ _)]

theorem readFraction_append {fraction : Option (List Char)}
    (written : ∀ ds ∈ fraction, ds ≠ [] ∧ ds.all Decimal.isDigit)
    (stops : Decimal.StopsDigits more) (point : ∀ c ∈ more.head?, c ≠ '.') :
    readFraction (NumberText.writeFraction fraction ++ more) = some (fraction, more) := by
  cases fraction with
  | none =>
    rw [NumberText.writeFraction, List.nil_append]
    unfold readFraction
    split
    · exact absurd rfl (point '.' rfl)
    · rfl
  | some ds =>
    obtain ⟨nonempty, digits⟩ := written ds rfl
    obtain ⟨taken, left⟩ := Decimal.takeWhile_digits digits stops
    rw [NumberText.writeFraction, List.cons_append, readFraction, taken, left, if_neg nonempty]

theorem readPower_append (negative : Bool) (n : Nat) (stops : Decimal.StopsDigits more) :
    readPower negative (Decimal.digits n ++ more) =
      some (some (if negative then -(n : Int) else n), more) := by
  obtain ⟨digits, value⟩ := Decimal.readNat_digits n
  obtain ⟨taken, left⟩ := Decimal.takeWhile_digits digits stops
  unfold readPower
  dsimp only
  rw [taken, left, if_neg (Decimal.digits_ne_nil n), value]

theorem readExponent_append (exponent : Option Int) (stops : StopsNumber more) :
    readExponent (NumberText.writeExponent exponent ++ more) = some (exponent, more) := by
  have digits : Decimal.StopsDigits more := fun c first => (stops c first).1
  cases exponent with
  | none =>
    cases more with
    | nil => rfl
    | cons c more =>
      obtain ⟨-, -, lower, upper⟩ := stops c rfl
      simp [NumberText.writeExponent, readExponent, lower, upper]
  | some e =>
    by_cases negative : e < 0
    · have power : -(e.natAbs : Int) = e := by omega
      have read := readPower_append true e.natAbs digits
      rw [if_pos rfl, power] at read
      simpa [NumberText.writeExponent, readExponent, negative] using read
    · have power : (e.natAbs : Int) = e := by omega
      have read := readPower_append false e.natAbs digits
      rw [if_neg Bool.false_ne_true, power] at read
      simpa [NumberText.writeExponent, readExponent, negative] using read

theorem stops_writeExponent (exponent : Option Int) (stops : StopsNumber more) :
    ∀ c ∈ (NumberText.writeExponent exponent ++ more).head?, Decimal.isDigit c = false ∧ c ≠ '.' := by
  intro c first
  cases exponent with
  | none => exact ⟨(stops c first).1, (stops c first).2.1⟩
  | some e =>
    obtain rfl := Option.some.inj first
    decide

theorem stops_writeFraction (fraction : Option (List Char)) (stops : Decimal.StopsDigits more) :
    Decimal.StopsDigits (NumberText.writeFraction fraction ++ more) := by
  intro c first
  cases fraction with
  | none => exact stops c first
  | some ds =>
    obtain rfl := Option.some.inj first
    decide

theorem readUnsigned_append (negative : Bool) (canonical : t.Canonical) (stops : StopsNumber more) :
    readUnsigned negative (t.whole ++ (NumberText.writeFraction t.fraction ++
      (NumberText.writeExponent t.exponent ++ more))) =
        some (⟨negative, t.whole, t.fraction, t.exponent⟩, more) := by
  have after := stops_writeExponent t.exponent stops
  have digits : Decimal.StopsDigits (NumberText.writeExponent t.exponent ++ more) :=
    fun c first => (after c first).1
  have whole := readWhole_append canonical.whole_digits canonical.whole
    (stops_writeFraction t.fraction digits)
  have fraction := readFraction_append canonical.fraction digits fun c first => (after c first).2
  simp [readUnsigned, whole, fraction, readExponent_append t.exponent stops]

/-- The reader takes off what is written for a spelling. -/
theorem readNumber_write (canonical : t.Canonical) (stops : StopsNumber more) :
    readNumber (t.write ++ more) = some (t, more) := by
  have unsigned := readUnsigned_append t.negative canonical stops
  rw [NumberText.write, List.append_assoc, List.append_assoc, List.append_assoc]
  cases negative : t.negative with
  | true =>
    rw [negative] at unsigned
    rw [if_pos rfl, List.singleton_append, readNumber, unsigned, ← negative]
  | false =>
    rw [negative] at unsigned
    rw [if_neg Bool.false_ne_true, List.nil_append]
    -- A whole part starts with a digit, not with a sign.
    obtain ⟨d, rest, first⟩ : ∃ d rest, t.whole = d :: rest := by
      rcases canonical.whole with single | ⟨d, rest, several, -⟩
      · exact ⟨_, _, single⟩
      · exact ⟨d, rest, several⟩
    have digit : d ≠ '-' := by
      rintro rfl
      have digits := canonical.whole_digits
      rw [first, List.all_cons, Bool.and_eq_true] at digits
      exact absurd digits.1 (by decide)
    rw [first, List.cons_append] at unsigned ⊢
    unfold readNumber
    split
    · rename_i same
      exact absurd (List.cons.inj same).1 digit
    · rw [unsigned, ← first, ← negative]

/-! ### Integers -/

theorem canonical_digits (n : Nat) :
    (Decimal.digits n).all Decimal.isDigit ∧
      (Decimal.digits n = ['0'] ∨ ∃ d ds, Decimal.digits n = d :: ds ∧ d ≠ '0') := by
  refine ⟨(Decimal.readNat_digits n).1, ?_⟩
  rcases Nat.eq_zero_or_pos n with rfl | pos
  · exact Or.inl rfl
  · exact Or.inr (Decimal.digits_cons_of_pos pos)

theorem canonical_ofInt (i : Int) : (NumberText.ofInt i).Canonical where
  whole_digits := (canonical_digits i.natAbs).1
  whole := (canonical_digits i.natAbs).2
  fraction _ none := by cases none

theorem write_ofInt (i : Int) : (NumberText.ofInt i).write = Decimal.writeInt i := by
  unfold NumberText.write NumberText.ofInt Decimal.writeInt
  by_cases negative : i < 0 <;> simp [negative, NumberText.writeFraction, NumberText.writeExponent]

theorem toJson?_ofInt (i : JsonInteger) : (NumberText.ofInt i.1).toJson? = some (.integer i) := by
  obtain ⟨i, inRange⟩ := i
  have value := (Decimal.readNat_digits i.natAbs).2
  have zero : ¬(decide (i < 0) = true ∧ i.natAbs = 0) := by
    rw [decide_eq_true_eq]
    omega
  have signed : (if decide (i < 0) = true then -(i.natAbs : Int) else i.natAbs) = i := by
    by_cases negative : i < 0
    · rw [if_pos (decide_eq_true negative)]
      omega
    · rw [if_neg fun sign => negative (of_decide_eq_true sign)]
      omega
  unfold NumberText.toJson? NumberText.ofInt
  dsimp only
  rw [if_pos ⟨rfl, rfl⟩, value, if_neg zero, signed, ofInt?, dif_pos inRange]
  rfl

/-! ### Doubles -/

theorem canonical_take (n : Nat) {k : Nat} (some : 0 < k) :
    ((Decimal.digits n).take k).all Decimal.isDigit ∧
      ((Decimal.digits n).take k = ['0'] ∨ ∃ d ds, (Decimal.digits n).take k = d :: ds ∧ d ≠ '0') := by
  obtain ⟨all, whole⟩ := canonical_digits n
  obtain ⟨k, rfl⟩ := Nat.exists_eq_succ_of_ne_zero (Nat.ne_of_gt some)
  refine ⟨List.all_eq_true.mpr fun c member => ?_, ?_⟩
  · exact List.all_eq_true.mp all c (List.mem_of_mem_take member)
  · rcases whole with single | ⟨d, ds, several, nonzero⟩
    · exact Or.inl (by rw [single, List.take_succ_cons, List.take_nil])
    · exact Or.inr ⟨d, ds.take k, by rw [several]; rfl, nonzero⟩

theorem canonical_drop (n : Nat) {k : Nat} (left : k < (Decimal.digits n).length) :
    (Decimal.digits n).drop k ≠ [] ∧ ((Decimal.digits n).drop k).all Decimal.isDigit := by
  refine ⟨fun none => ?_, List.all_eq_true.mpr fun c member => ?_⟩
  · have := List.drop_eq_nil_iff.mp none
    omega
  · exact List.all_eq_true.mp (canonical_digits n).1 c (List.mem_of_mem_drop member)

/-- The shapes of the spelling of a decimal, by where its point stands. -/
inductive Shape (x : Decimal) : List Char → Option (List Char) → Option Int → Prop where
  | below {k : Nat} (point : x.exponent + (Decimal.digits x.coefficient).length + k = 0) :
    Shape x ['0'] (some (List.replicate k '0' ++ Decimal.digits x.coefficient)) none
  | whole {k : Nat} (exponent : x.exponent = k) (near : (Decimal.digits x.coefficient).length + k ≤ 16) :
    Shape x (Decimal.digits x.coefficient ++ List.replicate k '0') (some ['0']) none
  | inside {k : Nat} (point : x.exponent + (Decimal.digits x.coefficient).length = k) (pos : 0 < k)
      (near : k ≤ 16) (left : k < (Decimal.digits x.coefficient).length) :
    Shape x ((Decimal.digits x.coefficient).take k) (some ((Decimal.digits x.coefficient).drop k)) none
  | single (one : (Decimal.digits x.coefficient).length = 1) :
    Shape x (Decimal.digits x.coefficient) none (some x.exponent)
  | several (more : 1 < (Decimal.digits x.coefficient).length) :
    Shape x ((Decimal.digits x.coefficient).take 1) (some ((Decimal.digits x.coefficient).drop 1))
      (some (x.exponent + (Decimal.digits x.coefficient).length - 1))

theorem ofDecimal_shape (negative : Bool) (x : Decimal) :
    ∃ whole fraction exponent, Shape x whole fraction exponent ∧
      NumberText.ofDecimal negative x = ⟨negative, whole, fraction, exponent⟩ := by
  have nonempty : 0 < (Decimal.digits x.coefficient).length :=
    List.length_pos_iff.mpr (Decimal.digits_ne_nil _)
  unfold NumberText.ofDecimal
  dsimp only
  split
  · rename_i positional
    have near : x.exponent + (Decimal.digits x.coefficient).length ≤ 16 :=
      of_decide_eq_true (Bool.and_eq_true_iff.mp positional).2
    split
    · exact ⟨_, _, _, .below (by omega), rfl⟩
    · split
      · exact ⟨_, _, _, .whole (by omega) (by omega), rfl⟩
      · exact ⟨_, _, _, .inside (by omega) (by omega) (by omega) (by omega), rfl⟩
  · split
    · rename_i short
      have one : (Decimal.digits x.coefficient).length = 1 := by omega
      have power : x.exponent + (Decimal.digits x.coefficient).length - 1 = x.exponent := by omega
      rw [List.take_of_length_le short, power]
      exact ⟨_, _, _, .single one, rfl⟩
    · exact ⟨_, _, _, .several (by omega), rfl⟩

theorem canonical_ofDecimal (negative : Bool) {x : Decimal} (zero : x.coefficient = 0 → x.exponent = 0) :
    (NumberText.ofDecimal negative x).Canonical := by
  obtain ⟨all, leading⟩ := canonical_digits x.coefficient
  obtain ⟨whole, fraction, exponent, shape, same⟩ := ofDecimal_shape negative x
  rw [same]
  cases shape with
  | below point =>
    refine ⟨rfl, Or.inl rfl, fun ds given => ?_⟩
    obtain rfl := Option.some.inj given
    refine ⟨List.append_ne_nil_of_right_ne_nil _ (Decimal.digits_ne_nil _), ?_⟩
    rw [List.all_append, Decimal.all_replicate_zero, all]
    rfl
  | whole exponent near =>
    refine ⟨by rw [List.all_append, all, Decimal.all_replicate_zero]; rfl, ?_, fun ds given => ?_⟩
    · rcases leading with single | ⟨d, ds, several, nonzero⟩
      · -- Nothing is put after the digit of zero.
        have none : x.coefficient = 0 := by
          rw [← (Decimal.readNat_digits x.coefficient).2, single]
          decide
        obtain rfl := Int.ofNat_eq_zero.mp (exponent.symm.trans (zero none))
        rw [single]
        exact Or.inl rfl
      · exact Or.inr ⟨d, _, by rw [several]; rfl, nonzero⟩
    · obtain rfl := Option.some.inj given
      decide
  | inside point pos near left =>
    obtain ⟨digits, front⟩ := canonical_take x.coefficient pos
    refine ⟨digits, front, fun ds given => ?_⟩
    obtain rfl := Option.some.inj given
    exact canonical_drop x.coefficient left
  | single one => exact ⟨all, leading, fun ds given => by cases given⟩
  | several more =>
    obtain ⟨digits, front⟩ := canonical_take x.coefficient Nat.one_pos
    refine ⟨digits, front, fun ds given => ?_⟩
    obtain rfl := Option.some.inj given
    exact canonical_drop x.coefficient more

theorem write_ofDecimal (negative : Bool) (x : Decimal) :
    (NumberText.ofDecimal negative x).write =
      (if negative then ['-'] else []) ++ x.write doubleLayout := by
  unfold NumberText.ofDecimal Decimal.write
  dsimp only
  split
  · unfold Decimal.setPoint
    split
    · simp [NumberText.write, NumberText.writeFraction, NumberText.writeExponent]
    · split <;>
        simp [NumberText.write, NumberText.writeFraction, NumberText.writeExponent, doubleLayout]
  · unfold Decimal.setExponent
    cases digits : Decimal.digits x.coefficient with
    | nil => exact absurd digits (Decimal.digits_ne_nil _)
    | cons d ds =>
      cases ds <;> simp [NumberText.write, NumberText.writeFraction, NumberText.writeExponent]

theorem value_ofDecimal (negative : Bool) (x : Decimal) : (NumberText.ofDecimal negative x).value = x.value := by
  have value := (Decimal.readNat_digits x.coefficient).2
  obtain ⟨whole, fraction, exponent, shape, same⟩ := ofDecimal_shape negative x
  rw [same]
  unfold NumberText.value
  dsimp only
  cases shape with
  | @below k point =>
    have exponent : (0 : Int) - (k + (Decimal.digits x.coefficient).length : Nat) = x.exponent := by omega
    have leading : Decimal.readNat (['0'] ++ (List.replicate k '0' ++ Decimal.digits x.coefficient)) =
        x.coefficient := by
      rw [← List.append_assoc, List.singleton_append, ← List.replicate_succ, Decimal.readNat_zeros_append,
        value]
    rw [Option.getD_some, Option.getD_none, leading, List.length_append, List.length_replicate, exponent,
      Decimal.value]
  | @whole k exponent near =>
    have zeros : Decimal.readNat (Decimal.digits x.coefficient ++ List.replicate k '0' ++ ['0']) =
        x.coefficient * 10 ^ (k + 1) := by
      rw [List.append_assoc, ← List.replicate_succ', Decimal.readNat_append_zeros, value]
    have exponent : (0 : Int) - (['0'].length : Nat) = x.exponent - (k + 1 : Nat) := by
      rw [List.length_singleton]
      omega
    rw [Option.getD_some, Option.getD_none, zeros, exponent, x.value_scale]
  | @inside k point pos near left =>
    have exponent : (0 : Int) - ((Decimal.digits x.coefficient).length - k : Nat) = x.exponent := by omega
    rw [Option.getD_some, Option.getD_none, List.take_append_drop, value, List.length_drop, exponent,
      Decimal.value]
  | single one =>
    rw [Option.getD_some, Option.getD_none, List.append_nil, value, List.length_nil, Nat.cast_zero, sub_zero,
      Decimal.value]
  | several more =>
    have exponent : x.exponent + (Decimal.digits x.coefficient).length - 1 -
        ((Decimal.digits x.coefficient).length - 1 : Nat) = x.exponent := by omega
    rw [Option.getD_some, Option.getD_some, List.take_append_drop, value, List.length_drop, exponent,
      Decimal.value]

theorem length_whole_ofDecimal (negative : Bool) (x : Decimal) :
    (NumberText.ofDecimal negative x).whole.length ≤ 16 := by
  obtain ⟨whole, fraction, exponent, shape, same⟩ := ofDecimal_shape negative x
  rw [same]
  cases shape with
  | below => exact Nat.le_add_left 1 15
  | whole exponent near => rwa [List.length_append, List.length_replicate]
  | inside point pos near => exact (List.length_take_le _ _).trans near
  | single one => exact one.trans_le (Nat.le_add_left 1 15)
  | several => exact (List.length_take_le _ _).trans (Nat.le_add_left 1 15)

theorem negative_ofDecimal (negative : Bool) (x : Decimal) :
    (NumberText.ofDecimal negative x).negative = negative := by
  obtain ⟨_, _, _, -, same⟩ := ofDecimal_shape negative x
  rw [same]

theorem exponent_ofDecimal (negative : Bool) (x : Decimal) :
    (NumberText.ofDecimal negative x).exponent.getD 0 = 0 ∨
      (NumberText.ofDecimal negative x).exponent.getD 0 =
        x.exponent + (Decimal.digits x.coefficient).length - 1 := by
  obtain ⟨whole, fraction, exponent, shape, same⟩ := ofDecimal_shape negative x
  rw [same]
  cases shape with
  | below | whole | inside => exact .inl rfl
  | single one =>
    refine .inr ?_
    rw [Option.getD_some, one]
    omega
  | several => exact .inr rfl

/-- A double is read as such: its spelling has a fraction or an exponent. -/
theorem toJson?_ofDecimal (negative : Bool) (x : Decimal) :
    (NumberText.ofDecimal negative x).toJson? = (NumberText.ofDecimal negative x).toDouble? := by
  have spelled : ¬((NumberText.ofDecimal negative x).fraction.isNone ∧
      (NumberText.ofDecimal negative x).exponent.isNone) := by
    obtain ⟨whole, fraction, exponent, shape, same⟩ := ofDecimal_shape negative x
    rw [same]
    cases shape <;> simp
  rw [NumberText.toJson?, if_neg spelled]

/-! ### Shortest decimals -/

variable (negative : Bool) (m : Magnitude .double)

theorem canonical_shortest : (NumberText.ofDecimal negative (m.shortest doubleLayout.tie)).Canonical := by
  refine canonical_ofDecimal negative fun zero => ?_
  have units := m.units_eq_zero_of_readsBack (m.shortest_readsBack doubleLayout.tie) zero
  rw [Magnitude.shortest, if_pos units]

def greatest : Magnitude .double :=
  ⟨(2 ^ Format.double.precision - 1) * 2 ^ Format.double.top, by decide +kernel⟩

theorem value_le_reach {m : Magnitude .double} {x : Decimal} (back : m.ReadsBack x) (pos : 0 < m.units)
    (other : m ≠ greatest) : x.value ≤ reach := by
  have units : m.units ≤ (2 ^ Format.double.precision - 2) * 2 ^ Format.double.top :=
    m.representable.le_of_ne (by decide) fun same => other (Magnitude.eq_of_units same)
  have middle : 2 * ((2 ^ Format.double.precision - 2) * 2 ^ Format.double.top) + 2 ^ Format.double.top =
      reach * (2 * 2 ^ Format.double.scale) := by decide +kernel
  have most : 2 * m.units + 2 ^ Format.double.top ≤ reach * (2 * 2 ^ Format.double.scale) := by
    rw [← middle]
    exact Nat.add_le_add_right (Nat.mul_le_mul_left 2 units) _
  have positive : 0 < 2 * 2 ^ Format.double.scale := Nat.mul_pos Nat.two_pos (Nat.two_pow_pos _)
  refine le_of_mul_le_mul_right ?_ (Nat.cast_pos.mpr positive)
  calc x.value * (2 * 2 ^ Format.double.scale : ℕ)
      ≤ (2 * m.units + 2 ^ Format.double.top : ℕ) := back.value_le pos
    _ ≤ (reach * (2 * 2 ^ Format.double.scale) : ℕ) := Nat.cast_le.mpr most
    _ = reach * (2 * 2 ^ Format.double.scale : ℕ) := Nat.cast_mul _ _

/-- What is written for a double is read as some double. -/
theorem isSome_magnitude?_shortest :
    (NumberText.ofDecimal negative (m.shortest doubleLayout.tie)).magnitude?.isSome := by
  by_cases top : m = greatest
  · -- Its shortest decimal is past the middle, yet its significand is rounded down.
    rw [top]
    cases negative <;> decide +kernel
  · rcases Nat.eq_zero_or_pos m.units with zero | pos
    · rw [Magnitude.shortest, if_pos zero]
      cases negative <;> decide +kernel
    · have canonical := canonical_shortest negative m
      have back := m.shortest_readsBack doubleLayout.tie
      generalize m.shortest doubleLayout.tie = x at canonical back
      refine NumberText.isSome_magnitude? ?_ ?_ ?_
      · calc Decimal.readNat (NumberText.ofDecimal negative x).whole
            < 10 ^ (NumberText.ofDecimal negative x).whole.length := Decimal.readNat_lt canonical.whole_digits
          _ ≤ 10 ^ 16 := Nat.pow_le_pow_right (by decide) (length_whole_ofDecimal negative x)
          _ ≤ significandLimit := by decide
      · obtain ⟨⟨low, high⟩, -⟩ := back.ratio pos
        have bounds : (-1075 : Int) < x.exponent + (Decimal.digits x.coefficient).length ∧
            x.exponent + (Decimal.digits x.coefficient).length ≤ 2098 := ⟨low, high⟩
        rcases exponent_ofDecimal negative x with none | point
        · rw [none]
          decide
        · rw [point]
          omega
      · rw [value_ofDecimal]
        exact value_le_reach back pos top

end EdgeAlert.Json
