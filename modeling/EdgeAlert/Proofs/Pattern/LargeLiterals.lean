import EdgeAlert.Proofs.Pattern.Integers

/-!
# Large literals

A property holds the integers of JSON exactly, with or without a sign in eight bytes, while a literal has
eight bytes with a sign. `json_integer_rules`: rules with an integer that fits a literal are exact for all
of these, and a rule with a larger one gives no verdict, so that it lets every integer through.
-/

namespace EdgeAlert

namespace Value

open Decimal Number NumericPattern Text

variable {v : Value} {n : Int} {literal : List Char} {pattern : String}

theorem complies_of_verdict {verdict : Bool} (decided : v.verdict pattern = .ok verdict) :
    v.complies pattern = { value := verdict } := by
  unfold complies
  rw [decided]

theorem complies_of_error {fault : PatternError} (failed : v.verdict pattern = .error fault) :
    v.complies pattern = { value := true, notices := [.malformedPattern pattern] } := by
  unfold complies
  rw [failed]

theorem readLiteral_large (spells : Spells literal n) (large : 2 ^ (63 : Nat) ≤ n) (number : Number) :
    readLiteral literal ≠ .ok number := by
  unfold readLiteral
  dsimp only
  have unfit : ¬(-2 ^ (64 - 1) ≤ n ∧ n < 2 ^ (64 - 1)) := by omega
  rw [if_neg (point_notMem_spelled spells), readSigned?, spells_iff.mp spells, Option.bind_some, Signed.ofInt?,
    dif_neg unfit]
  rintro ⟨⟩

def exactRules (n : Int) : List String :=
  let literal := String.ofList (writeInt n)
  ["equal:" ++ literal, "range:[" ++ literal ++ "," ++ literal ++ "]"]

theorem exactRules_eq (n : Int) : exactRules n =
    [listing "equal:" [writeInt n] 0,
      "range:" ++ String.ofList (bracketed true (writeInt n ++ ',' :: writeInt n) true)] := by
  have equal : "equal:" ++ String.ofList (writeInt n) = listing "equal:" [writeInt n] 0 := by simp [listing]
  have range : "range:[" ++ String.ofList (writeInt n) ++ "," ++ String.ofList (writeInt n) ++ "]" =
      "range:" ++ String.ofList (bracketed true (writeInt n ++ ',' :: writeInt n) true) := by
    rw [← String.toList_inj]
    simp [bracketed, openBracket, closeBracket]
  rw [← equal, ← range]
  rfl

/-- An integer that fits a literal is asked for exactly. -/
theorem verdict_exact {m : Int} (carried : v.Carries m) (a : Signed 64) (asked : pattern ∈ exactRules a.1) :
    v.verdict pattern = .ok (decide (m = a.1)) := by
  have spells := spells_writeInt a.1
  rw [exactRules_eq] at asked
  rcases List.mem_pair.mp asked with rfl | rfl
  · have spelled : ∀ l ∈ [(writeInt a.1, a)], Spells l.1 l.2.1 := by simpa using spells
    simpa using (verdict_integers carried (by simp) spelled).1
  · rw [verdict_range carried true true a a spells spells, Except.ok.injEq, decide_eq_decide]
    show a.1 ≤ m ∧ m ≤ a.1 ↔ m = a.1
    omega

theorem verdict_large {m : Int} (carried : v.Carries m) (large : 2 ^ (63 : Nat) ≤ n)
    (asked : pattern ∈ exactRules n) :
    v.verdict pattern = .error (.invalidNumber (String.ofList (writeInt n))) := by
  have spells := spells_writeInt n
  have read := ofValue?_carried carried
  have unread := readLiteral_large spells large
  rw [exactRules_eq] at asked
  rcases List.mem_pair.mp asked with rfl | rfl
  · have listable : Listable [writeInt n] := listable_spelled (by simp) (by simpa using ⟨n, spells⟩)
    rw [verdict_unread read listable ⟨[], [], rfl, by simp, unread⟩ (by decide) 0, trim_writeInt]
  · have listable : Listable [writeInt n, writeInt n] :=
      listable_spelled (by simp) (by simpa using ⟨n, spells⟩)
    have fielded : Fielded (writeInt n ++ ',' :: writeInt n) [writeInt n, writeInt n] := by
      simpa using listable.fielded 0
    have first : FirstUnread [writeInt n, writeInt n] (writeInt n) :=
      ⟨[], [writeInt n], rfl, by simp, unread⟩
    rw [verdict_numeric read, parse_of_reads (.bound fielded rfl first), trim_writeInt]
    rfl

theorem complies_exact_iff (m n : JsonInteger) (asked : pattern ∈ exactRules n.1) :
    ((ofJson (.integer m)).complies pattern).value = true ↔ m.1 = n.1 ∨ 2 ^ (63 : Nat) ≤ n.1 := by
  rcases Int.lt_or_le n.1 (2 ^ (63 : Nat)) with fits | large
  · have bounds : -2 ^ (64 - 1) ≤ n.1 ∧ n.1 < 2 ^ (64 - 1) := by
      have := n.2
      omega
    rw [complies_of_verdict (verdict_exact (.json m) ⟨n.1, bounds⟩ asked)]
    show decide (m.1 = n.1) = true ↔ _
    rw [decide_eq_true_iff, or_iff_left (Int.not_le.mpr fits)]
  · rw [complies_of_error (verdict_large (.json m) large asked)]
    exact iff_of_true rfl (.inr large)

/-- An integer of JSON complies with a rule that asks for one exactly if it is that one, or if the one that is
asked for is too large for a literal. -/
theorem json_integer_rules (m n : JsonInteger) :
    let v := ofJson (.integer m)
    let literal := String.ofList (writeInt n.1)
    ((v.complies ("equal:" ++ literal)).value = true ↔ m.1 = n.1 ∨ 2 ^ (63 : Nat) ≤ n.1) ∧
    ((v.complies ("range:[" ++ literal ++ "," ++ literal ++ "]")).value = true ↔
      m.1 = n.1 ∨ 2 ^ (63 : Nat) ≤ n.1) ∧
    (2 ^ (63 : Nat) ≤ n.1 → ∀ pattern ∈ exactRules n.1, v.verdict pattern = .error (.invalidNumber literal) ∧
      (v.complies pattern).notices = [.malformedPattern pattern]) := by
  intro v literal
  refine ⟨complies_exact_iff m n List.mem_cons_self, complies_exact_iff m n (List.mem_of_getLast? rfl),
    fun large pattern asked => ?_⟩
  have failed := verdict_large (.json m) large asked
  exact ⟨failed, by rw [complies_of_error failed]⟩

theorem greatest_literal_exact :
    let greatest : JsonInteger := ⟨9223372036854775807, by decide⟩
    let next : JsonInteger := ⟨9223372036854775808, by decide⟩
    ((ofJson (.integer next)).complies "equal:9223372036854775807").value = false ∧
      ((ofJson (.integer greatest)).complies "equal:9223372036854775807").value = true ∧
      (2 : Int) ^ (63 : Nat) ≤ next.1 ∧
      ((ofJson (.integer greatest)).complies "equal:9223372036854775808").notices =
        [.malformedPattern "equal:9223372036854775808"] := by
  intro greatest next
  have large : (2 : Int) ^ (63 : Nat) ≤ next.1 := by decide
  have other : ¬(next.1 = greatest.1 ∨ 2 ^ (63 : Nat) ≤ greatest.1) := by decide
  have spelled : "equal:" ++ String.ofList (writeInt greatest.1) = "equal:9223372036854775807" := by
    decide +kernel
  have spelled' : "equal:" ++ String.ofList (writeInt next.1) = "equal:9223372036854775808" := by
    decide +kernel
  have of_next := (json_integer_rules next greatest).1
  have of_greatest := (json_integer_rules greatest greatest).1
  have reported := ((json_integer_rules greatest next).2.2 large _ List.mem_cons_self).2
  rw [spelled] at of_next of_greatest
  rw [spelled'] at reported
  exact ⟨Bool.eq_false_iff.mpr fun same => other (of_next.mp same), of_greatest.mpr (.inl rfl), large, reported⟩

/-- A rule for an integer that a property can hold exactly lets all the others through. -/
theorem large_rules_let_through :
    let asked : JsonInteger := ⟨9223372036854775808, by decide⟩
    let idle : JsonInteger := ⟨0, by decide⟩
    (ofJson (.integer asked)).display = "9223372036854775808" ∧ idle.1 ≠ asked.1 ∧
      ((ofJson (.integer idle)).complies "equal:9223372036854775808").value = true ∧
      ((ofJson (.integer idle)).complies "range:[9223372036854775808,9223372036854775808]").value = true := by
  decide +kernel

end Value
end EdgeAlert
