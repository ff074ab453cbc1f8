import Mathlib.Logic.Function.Iterate
import EdgeAlert.Regex.Match

/-!
# Searching and meaning

The search over sets of places agrees with the stretches that an expression matches: a bit of the
result is set exactly if some match that starts at a set bit ends there. A repetition is followed step
by step; that so many steps are enough where it has no upper bound is because repetitions that take
nothing can be left out.
-/

namespace EdgeAlert.Regex

open EdgeAlert.Regex.Expr

variable {text : List Char} {i j k : Nat}

/-! ### Stretches by the form of the expression -/

namespace Expr

@[simp] theorem spans_empty : Spans text .empty i j ↔ i = j ∧ i ≤ text.length := by
  constructor
  · rintro ⟨⟩
    exact ⟨rfl, by assumption⟩
  · rintro ⟨rfl, within⟩
    exact .empty i within

@[simp] theorem spans_chars {set : CharSet} :
    Spans text (.chars set) i j ↔ j = i + 1 ∧ ∃ c, text[i]? = some c ∧ set.contains c = true := by
  constructor
  · rintro ⟨⟩
    exact ⟨rfl, _, by assumption, by assumption⟩
  · rintro ⟨rfl, c, at_, member⟩
    exact .chars set i c at_ member

@[simp] theorem spans_look {condition : Look} :
    Spans text (.look condition) i j ↔
      i = j ∧ i ≤ text.length ∧ condition.holds (charBefore text i) text[i]? = true := by
  constructor
  · rintro ⟨⟩
    exact ⟨rfl, by assumption, by assumption⟩
  · rintro ⟨rfl, within, holds⟩
    exact .look condition i within holds

@[simp] theorem spans_capture {body : Expr} : Spans text (.capture body) i j ↔ Spans text body i j := by
  constructor
  · rintro ⟨⟩
    assumption
  · exact .capture body i j

@[simp] theorem spans_seq {first second : Expr} :
    Spans text (.seq first second) i k ↔ ∃ j, Spans text first i j ∧ Spans text second j k := by
  constructor
  · rintro ⟨⟩
    exact ⟨_, by assumption, by assumption⟩
  · rintro ⟨j, here, there⟩
    exact .seq first second i j k here there

@[simp] theorem spans_alt {left right : Expr} :
    Spans text (.alt left right) i j ↔ Spans text left i j ∨ Spans text right i j := by
  constructor
  · rintro (_ | _)
    · exact .inl (by assumption)
    · exact .inr (by assumption)
  · rintro (h | h)
    · exact .left left right i j h
    · exact .right left right i j h

theorem spans_repeated {body : Expr} {min : Nat} {max : Option Nat} :
    Spans text (.repeated body min max) i j ↔
      ∃ count, min ≤ count ∧ (∀ m, max = some m → count ≤ m) ∧ SpansTimes text body count i j := by
  constructor
  · rintro ⟨⟩
    exact ⟨_, by assumption, by assumption, by assumption⟩
  · rintro ⟨count, least, greatest, times⟩
    exact .repeated body min max count i j least greatest times

@[simp] theorem spansTimes_zero {body : Expr} : SpansTimes text body 0 i j ↔ i = j ∧ i ≤ text.length := by
  constructor
  · rintro ⟨⟩
    exact ⟨rfl, by assumption⟩
  · rintro ⟨rfl, within⟩
    exact .zero body i within

@[simp] theorem spansTimes_succ {body : Expr} {count : Nat} :
    SpansTimes text body (count + 1) i k ↔ ∃ j, Spans text body i j ∧ SpansTimes text body count j k := by
  constructor
  · rintro ⟨⟩
    exact ⟨_, by assumption, by assumption⟩
  · rintro ⟨j, here, there⟩
    exact .succ body count i j k here there

theorem Spans.within {e : Expr} (spans : Spans text e i j) : i ≤ j ∧ j ≤ text.length := by
  induction e generalizing i j with
  | empty =>
    obtain ⟨rfl, within⟩ := spans_empty.mp spans
    exact ⟨Nat.le_refl _, within⟩
  | chars set =>
    obtain ⟨rfl, c, at_, -⟩ := spans_chars.mp spans
    have := (List.getElem?_eq_some_iff.mp at_).1
    omega
  | look condition =>
    obtain ⟨rfl, within, -⟩ := spans_look.mp spans
    exact ⟨Nat.le_refl _, within⟩
  | capture body ih => exact ih (spans_capture.mp spans)
  | seq first second here there =>
    obtain ⟨m, one, two⟩ := spans_seq.mp spans
    have := here one
    have := there two
    omega
  | alt left right inLeft inRight =>
    rcases spans_alt.mp spans with h | h
    · exact inLeft h
    · exact inRight h
  | repeated body min max ih =>
    obtain ⟨count, -, -, times⟩ := spans_repeated.mp spans
    clear spans
    induction count generalizing i with
    | zero =>
      obtain ⟨rfl, within⟩ := spansTimes_zero.mp times
      exact ⟨Nat.le_refl _, within⟩
    | succ count more =>
      obtain ⟨m, one, rest⟩ := spansTimes_succ.mp times
      have := ih one
      have := more rest
      omega

theorem SpansTimes.within {body : Expr} {count : Nat} (times : SpansTimes text body count i j) :
    i ≤ j ∧ j ≤ text.length :=
  (spans_repeated.mpr ⟨count, Nat.le_refl _, fun _ top => by simp_all, times⟩ :
    Spans text (.repeated body count (some count)) i j).within

theorem spansTimes_add {body : Expr} {a b : Nat} :
    SpansTimes text body (a + b) i k ↔ ∃ j, SpansTimes text body a i j ∧ SpansTimes text body b j k := by
  induction a generalizing i with
  | zero =>
    simp only [Nat.zero_add, spansTimes_zero]
    constructor
    · intro times
      have := times.within
      exact ⟨i, ⟨rfl, by omega⟩, times⟩
    · rintro ⟨j, ⟨rfl, -⟩, times⟩
      exact times
  | succ a ih =>
    rw [Nat.add_right_comm]
    simp only [spansTimes_succ, ih]
    grind

/-- Repetitions that take nothing can be left out. -/
theorem SpansTimes.shorten {body : Expr} {count : Nat} (times : SpansTimes text body count i j) :
    ∃ fewer ≤ j - i, SpansTimes text body fewer i j := by
  induction count generalizing i with
  | zero => exact ⟨0, by omega, times⟩
  | succ count ih =>
    obtain ⟨m, one, rest⟩ := spansTimes_succ.mp times
    obtain ⟨fewer, few, same⟩ := ih rest
    have forwards := one.within
    have onwards := rest.within
    rcases Nat.eq_or_lt_of_le forwards.1 with rfl | further
    · exact ⟨fewer, few, same⟩
    · exact ⟨fewer + 1, by omega, spansTimes_succ.mpr ⟨m, one, same⟩⟩

def Bounded : Expr → Prop
  | .empty | .chars _ | .look _ => True
  | .capture body => body.Bounded
  | .seq first second => first.Bounded ∧ second.Bounded
  | .alt left right => left.Bounded ∧ right.Bounded
  | .repeated body min max => body.Bounded ∧ ∀ m, max = some m → min ≤ m

end Expr

/-! ### Sets of places -/

theorem halved (n : Nat) (bit : Bool) : (2 * n + bit.toNat) / 2 = n := by
  cases bit <;> simp
  omega

theorem testBit_placesOf (set : CharSet) (text : List Char) (i : Nat) :
    (placesOf set text).testBit i = text[i]?.any set.contains := by
  induction text generalizing i with
  | nil => simp [placesOf]
  | cons c cs ih =>
    cases i with
    | zero => cases h : set.contains c <;> simp [placesOf, h]
    | succ i => rw [placesOf, Nat.testBit_succ, halved, ih, List.getElem?_cons_succ]

theorem testBit_placesWhere (condition : Look) (before : Option Char) (text : List Char) (i : Nat) :
    (placesWhere condition before text).testBit i =
      (decide (i ≤ text.length) && condition.holds (if i = 0 then before else charBefore text i) text[i]?) := by
  induction text generalizing i before with
  | nil => cases i <;> cases h : condition.holds before none <;> simp [placesWhere, h, Nat.testBit_succ]
  | cons c cs ih =>
    cases i with
    | zero => cases h : condition.holds before (some c) <;> simp [placesWhere, h]
    | succ i =>
      rw [placesWhere, Nat.testBit_succ, halved, ih]
      cases i <;> simp [charBefore]

theorem steps_eq (step : Nat → Nat) (count places : Nat) : steps step count places = step^[count] places := by
  induction count generalizing places with
  | zero => rfl
  | succ count ih =>
    by_cases still : step places = places
    · simp [steps, still, Function.iterate_fixed still]
    · simp [steps, still, ih]

theorem reach_eq (step : Nat → Nat) (count places : Nat) :
    reach step count places = (fun places => places ||| step places)^[count] places := by
  induction count generalizing places with
  | zero => rfl
  | succ count ih =>
    by_cases still : places ||| step places = places
    · rw [Function.iterate_fixed still]
      simp [reach, still]
    · simp [reach, still, ih]

/-- A step leads from places of a text of this length to exactly those that a relation gives. -/
def Follows (length : Nat) (step : Nat → Nat) (leads : Nat → Nat → Prop) : Prop :=
  ∀ starts, (∀ i, starts.testBit i = true → i ≤ length) →
    ∀ j, (step starts).testBit j = true ↔ ∃ i, starts.testBit i = true ∧ leads i j

section Repetition

variable {body : Expr} {step : Nat → Nat}

theorem Follows.steps (follows : Follows text.length step (Spans text body)) (count : Nat) :
    Follows text.length (steps step count) (SpansTimes text body count) := by
  intro starts within j
  rw [steps_eq]
  induction count generalizing starts with
  | zero =>
    simp only [Function.iterate_zero, id, spansTimes_zero]
    grind
  | succ count ih =>
    have after : ∀ m, (step starts).testBit m = true → m ≤ text.length := by
      intro m reached
      obtain ⟨i, -, spans⟩ := (follows starts within m).mp reached
      exact spans.within.2
    rw [Function.iterate_succ_apply, ih (step starts) after]
    simp only [follows starts within, spansTimes_succ]
    grind

theorem Follows.reach (follows : Follows text.length step (Spans text body)) (count : Nat) :
    Follows text.length (reach step count) fun i j => ∃ k ≤ count, SpansTimes text body k i j := by
  intro starts within j
  rw [reach_eq]
  induction count generalizing starts with
  | zero =>
    simp only [Function.iterate_zero, id, Nat.le_zero, exists_eq_left, spansTimes_zero]
    grind
  | succ count ih =>
    have widened : ∀ m, (starts ||| step starts).testBit m = true ↔
        starts.testBit m = true ∨ ∃ i, starts.testBit i = true ∧ Spans text body i m := by
      intro m
      rw [Nat.testBit_or, Bool.or_eq_true, follows starts within]
    have after : ∀ m, (starts ||| step starts).testBit m = true → m ≤ text.length := by
      intro m reached
      rcases (widened m).mp reached with start | ⟨i, -, spans⟩
      · exact within m start
      · exact spans.within.2
    rw [Function.iterate_succ_apply, ih _ after]
    constructor
    · rintro ⟨m, reached, k, few, times⟩
      rcases (widened m).mp reached with start | ⟨i, start, spans⟩
      · exact ⟨m, start, k, by omega, times⟩
      · exact ⟨i, start, k + 1, by omega, spansTimes_succ.mpr ⟨m, spans, times⟩⟩
    · rintro ⟨i, start, k, few, times⟩
      cases k with
      | zero => exact ⟨i, (widened i).mpr (.inl start), 0, by omega, times⟩
      | succ k =>
        obtain ⟨m, spans, rest⟩ := spansTimes_succ.mp times
        exact ⟨m, (widened m).mpr (.inr ⟨i, start, spans⟩), k, by omega, rest⟩

/-- Some steps, and then at most `more` further ones. -/
theorem Follows.repeated (follows : Follows text.length step (Spans text body)) (min more : Nat) :
    Follows text.length (fun starts => Regex.reach step more (Regex.steps step min starts)) fun i j =>
      ∃ k ≤ more, SpansTimes text body (min + k) i j := by
  intro starts within j
  have reached := follows.steps min starts within
  have after : ∀ m, (Regex.steps step min starts).testBit m = true → m ≤ text.length := by
    intro m at_
    obtain ⟨i, -, times⟩ := (reached m).mp at_
    exact times.within.2
  rw [follows.reach more _ after]
  simp only [reached, spansTimes_add]
  grind

end Repetition

/-! ### The search -/

/-- The search over places finds exactly the ends of matches. -/
theorem follows_over (text : List Char) {e : Expr} (bounded : e.Bounded) :
    Follows text.length ((e.over text).ends text.length) (Spans text e) := by
  induction e with
  | empty =>
    intro starts within j
    simp only [Expr.over, Plan.ends, spans_empty]
    grind
  | chars set =>
    intro starts within j
    simp only [Expr.over, Plan.ends, spans_chars]
    cases j with
    | zero => simp
    | succ j =>
      rw [Nat.testBit_succ, Nat.mul_div_cancel_left _ (by omega), Nat.testBit_and, testBit_placesOf]
      simp only [Bool.and_eq_true, Option.any_eq_true]
      grind
  | look condition =>
    intro starts within j
    have place : (if j = 0 then none else charBefore text j) = charBefore text j := by
      cases j <;> rfl
    simp only [Expr.over, Plan.ends, spans_look, Nat.testBit_and, testBit_placesWhere, place, Bool.and_eq_true,
      decide_eq_true_eq]
    grind
  | capture body ih =>
    intro starts within j
    simp only [Expr.over, ih bounded starts within, spans_capture]
  | seq first second here there =>
    intro starts within k
    have reached := here bounded.1 starts within
    have after : ∀ m, ((first.over text).ends text.length starts).testBit m = true → m ≤ text.length := by
      intro m at_
      obtain ⟨i, -, spans⟩ := (reached m).mp at_
      exact spans.within.2
    simp only [Expr.over, Plan.ends, there bounded.2 _ after, reached, spans_seq]
    grind
  | alt left right inLeft inRight =>
    intro starts within j
    simp only [Expr.over, Plan.ends, Nat.testBit_or, Bool.or_eq_true, inLeft bounded.1 starts within,
      inRight bounded.2 starts within, spans_alt]
    grind
  | repeated body min max ih =>
    intro starts within j
    cases max with
    | some max =>
      have ordered : min ≤ max := bounded.2 max rfl
      rw [Expr.over, Plan.ends, (ih bounded.1).repeated min (max - min) starts within]
      simp only [spans_repeated, Option.some.injEq, forall_eq']
      constructor
      · rintro ⟨i, start, k, few, times⟩
        exact ⟨i, start, min + k, by omega, by omega, times⟩
      · rintro ⟨i, start, count, least, greatest, times⟩
        exact ⟨i, start, count - min, by omega, by rwa [Nat.add_sub_cancel' least]⟩
    | none =>
      rw [Expr.over, Plan.ends, (ih bounded.1).repeated min (text.length + 1) starts within]
      simp only [spans_repeated, reduceCtorEq, false_implies, implies_true, true_and]
      constructor
      · rintro ⟨i, start, k, -, times⟩
        exact ⟨i, start, min + k, by omega, times⟩
      · rintro ⟨i, start, count, least, times⟩
        obtain ⟨m, first, rest⟩ := spansTimes_add.mp (by rwa [Nat.add_sub_cancel' least] :
          SpansTimes text body (min + (count - min)) i j)
        obtain ⟨fewer, few, same⟩ := rest.shorten
        have := rest.within
        exact ⟨i, start, fewer, by omega, spansTimes_add.mpr ⟨m, first, same⟩⟩

/-- The search succeeds exactly if the expression matches some stretch. -/
theorem matchesWithin_iff {e : Expr} (bounded : e.Bounded) :
    e.matchesWithin text = true ↔ ∃ i j, Spans text e i j := by
  have every : ∀ i, (2 ^ (text.length + 1) - 1).testBit i = true ↔ i ≤ text.length := by
    intro i
    rw [Nat.testBit_two_pow_sub_one, decide_eq_true_eq]
    omega
  have found := follows_over text bounded (2 ^ (text.length + 1) - 1) fun i => (every i).mp
  rw [matchesWithin, bne_iff_ne]
  constructor
  · intro some
    obtain ⟨j, reached⟩ := Nat.exists_testBit_of_ne_zero some
    obtain ⟨i, -, spans⟩ := (found j).mp reached
    exact ⟨i, j, spans⟩
  · rintro ⟨i, j, spans⟩ none
    have within := spans.within
    have reached := (found j).mpr ⟨i, (every i).mpr (by omega), spans⟩
    simp [none] at reached

end EdgeAlert.Regex
