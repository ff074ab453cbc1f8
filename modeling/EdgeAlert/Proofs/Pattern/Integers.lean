import EdgeAlert.Proofs.Decimal.Spelling
import EdgeAlert.Proofs.Pattern.Listing

/-!
# Integer rules

A value carries an integer whatever its width, as the text of a decimal, or as an integer of JSON.
`integer_rules_exact`: the verdict on it depends on the integer alone, and a rule with integers for its
bounds or literals compares exactly.
-/

namespace EdgeAlert

namespace Value

open Decimal Number NumericPattern Text

inductive Carries : Value → Int → Prop where
  | short (n : Signed 16) : Carries (.short n) n.1
  | integer (n : Signed 32) : Carries (.integer n) n.1
  | long (n : Signed 64) : Carries (.long n) n.1
  | decimal {text : String} (n : Signed 128) (spells : Spells text.toList n.1) : Carries (.decimal text) n.1
  | json (n : JsonInteger) : Carries (.ofJson (.integer n)) n.1

variable {v w : Value} {n : Int} {literal : List Char}

/-! ### Reading -/

theorem readDecimal_spelled {text : List Char} (n : Signed 128) (spells : Spells text n.1) :
    readDecimal text = .ok (.int n.1) := by
  unfold readDecimal
  dsimp only
  rw [readSigned?_trim 128 spells n.2]

theorem ofValue?_carried (carried : v.Carries n) : Number.ofValue? v = .ok (some (.int n)) := by
  cases carried with
  | short n => rfl
  | integer n => rfl
  | long n => rfl
  | decimal n spells =>
    show (readDecimal _).map some = _
    rw [readDecimal_spelled n spells]
    rfl
  | json n =>
    unfold ofJson
    dsimp only
    cases fits : Signed.ofInt? 64 n.1 with
    | some m =>
      have same : m.1 = n.1 := by
        unfold Signed.ofInt? at fits
        split at fits
        · rw [← Option.some.inj fits]
        · cases fits
      show Except.ok (some (Number.int m.1)) = _
      rw [same]
    | none =>
      have bounds : -2 ^ (128 - 1) ≤ n.1 ∧ n.1 < 2 ^ (128 - 1) := by
        have := n.2
        omega
      have spells : Spells (String.ofList (writeInt n.1)).toList n.1 := by
        rw [String.toList_ofList]
        exact spells_writeInt n.1
      show (readDecimal _).map some = _
      rw [readDecimal_spelled ⟨n.1, bounds⟩ spells]
      rfl

theorem point_notMem_spelled (spells : Spells literal n) : '.' ∉ trim literal := by
  intro point
  obtain ⟨before, after, split, -⟩ := exists_trim literal
  have member : '.' ∈ literal := by
    rw [split]
    simp [point]
  rcases spells.mem member with blank | sign | sign | digit
  all_goals revert ‹_›; decide

theorem readLiteral_spelled (a : Signed 64) (spells : Spells literal a.1) :
    readLiteral literal = .ok (.int a.1) := by
  unfold readLiteral
  dsimp only
  rw [if_neg (point_notMem_spelled spells), readSigned?_trim 64 spells a.2]
  rfl

theorem comma_notMem_spelled (spells : Spells literal n) : ',' ∉ literal := by
  intro comma
  rcases spells.mem comma with blank | sign | sign | digit
  all_goals revert ‹_›; decide

theorem listable_spelled {literals : List (List Char)} (some : literals ≠ [])
    (spelled : ∀ literal ∈ literals, ∃ i, Spells literal i) : Listable literals := by
  refine ⟨some, fun literal member => ?_⟩
  obtain ⟨i, spells⟩ := spelled literal member
  exact ⟨spells.nonempty, comma_notMem_spelled spells⟩

/-! ### Comparing -/

theorem within_above (included : Bool) (a n : Int) :
    within .gt included (some (Ord.compare n a)) = decide (if included then a ≤ n else a < n) := by
  cases order : Ord.compare n a with
  | lt =>
    have below : n < a := Int.compare_eq_lt.mp order
    cases included <;> simp [within] <;> omega
  | eq =>
    have same : n = a := Int.compare_eq_eq.mp order
    cases included <;> simp [within, same]
  | gt =>
    have above : a < n := Int.compare_eq_gt.mp order
    cases included <;> simp [within] <;> omega

theorem within_below (included : Bool) (b n : Int) :
    within .lt included (some (Ord.compare n b)) = decide (if included then n ≤ b else n < b) := by
  cases order : Ord.compare n b with
  | lt =>
    have below : n < b := Int.compare_eq_lt.mp order
    cases included <;> simp [within] <;> omega
  | eq =>
    have same : n = b := Int.compare_eq_eq.mp order
    cases included <;> simp [within, same]
  | gt =>
    have above : b < n := Int.compare_eq_gt.mp order
    cases included <;> simp [within] <;> omega

theorem equals_spelled (a : Signed 64) (spells : Spells literal a.1) :
    equals (.int n) literal = decide (n = a.1) := by
  unfold equals
  rw [readLiteral_spelled a spells]
  show (some (Ord.compare n a.1) == some .eq) = _
  rw [Bool.eq_iff_iff]
  simp

/-! ### The verdicts -/

theorem verdict_range (carried : v.Carries n) (minIncluded maxIncluded : Bool) (a b : Signed 64)
    {first second : List Char} (least : Spells first a.1) (greatest : Spells second b.1) :
    v.verdict ("range:" ++ String.ofList (bracketed minIncluded (first ++ ',' :: second) maxIncluded)) =
      .ok (decide ((if minIncluded then a.1 ≤ n else a.1 < n) ∧ if maxIncluded then n ≤ b.1 else n < b.1)) := by
  have listable : Listable [first, second] := by
    refine listable_spelled (by simp) fun literal member => ?_
    rcases List.mem_pair.mp member with rfl | rfl
    · exact ⟨_, least⟩
    · exact ⟨_, greatest⟩
  have bounds : Fielded (first ++ ',' :: second) [first, second] := by
    simpa using listable.fielded 0
  have reads : Reads _ (.ok (.range (.int a.1) minIncluded (.int b.1) maxIncluded)) :=
    .range bounds (readLiteral_spelled a least) (readLiteral_spelled b greatest)
  rw [verdict_numeric (ofValue?_carried carried), parse_of_reads reads]
  show Except.ok (within .gt minIncluded (some (Ord.compare n a.1)) &&
    within .lt maxIncluded (some (Ord.compare n b.1))) = _
  rw [within_above, within_below, Bool.decide_and]

theorem verdict_integers (carried : v.Carries n) {listed : List (List Char × Signed 64)} (some : listed ≠ [])
    (spelled : ∀ l ∈ listed, Spells l.1 l.2.1) :
    v.verdict (listing "equal:" (listed.map Prod.fst) 0) = .ok (decide (∀ l ∈ listed, n = l.2.1)) ∧
      v.verdict (listing "notequal:" (listed.map Prod.fst) 0) = .ok (decide (∀ l ∈ listed, n ≠ l.2.1)) := by
  have listable : Listable (listed.map Prod.fst) := by
    refine listable_spelled (by simpa using some) fun literal member => ?_
    obtain ⟨l, listed, rfl⟩ := List.mem_map.mp member
    exact ⟨_, spelled l listed⟩
  have good : ∀ literal ∈ listed.map Prod.fst, ∃ number, readLiteral literal = .ok number := by
    intro literal member
    obtain ⟨l, listed, rfl⟩ := List.mem_map.mp member
    exact ⟨_, readLiteral_spelled l.2 (spelled l listed)⟩
  have each : ∀ l ∈ listed, equals (.int n) l.1 = decide (n = l.2.1) :=
    fun l member => equals_spelled l.2 (spelled l member)
  obtain ⟨numbers, all⟩ := exists_allRead good
  obtain ⟨equal, notEqual⟩ := verdict_listing (ofValue?_carried carried) listable all 0
  rw [equal, notEqual, List.all_map, List.all_map]
  constructor
  · rw [Except.ok.injEq, Bool.eq_iff_iff, List.all_eq_true, decide_eq_true_iff]
    exact forall₂_congr fun l member => by simp [each l member]
  · rw [Except.ok.injEq, Bool.eq_iff_iff, List.all_eq_true, decide_eq_true_iff]
    exact forall₂_congr fun l member => by simp [each l member]

/-- For a value that carries an integer, rules with integers are exact. -/
theorem integer_rules_exact (carried : v.Carries n) :
    (∀ (minIncluded maxIncluded : Bool) (a b : Signed 64) (first second : List Char),
      Spells first a.1 → Spells second b.1 →
      v.verdict ("range:" ++ String.ofList (bracketed minIncluded (first ++ ',' :: second) maxIncluded)) =
        .ok (decide ((if minIncluded then a.1 ≤ n else a.1 < n) ∧
          if maxIncluded then n ≤ b.1 else n < b.1))) ∧
    (∀ listed : List (List Char × Signed 64), listed ≠ [] → (∀ l ∈ listed, Spells l.1 l.2.1) →
      v.verdict (listing "equal:" (listed.map Prod.fst) 0) = .ok (decide (∀ l ∈ listed, n = l.2.1)) ∧
      v.verdict (listing "notequal:" (listed.map Prod.fst) 0) = .ok (decide (∀ l ∈ listed, n ≠ l.2.1))) ∧
    ∀ w : Value, w.Carries n → ∀ pattern, v.verdict pattern = w.verdict pattern := by
  refine ⟨?_, fun listed some spelled => verdict_integers carried some spelled, ?_⟩
  · intro minIncluded maxIncluded a b first second least greatest
    exact verdict_range carried minIncluded maxIncluded a b least greatest
  · intro w carried' pattern
    rw [verdict_numeric (ofValue?_carried carried), verdict_numeric (ofValue?_carried carried')]

theorem past_long_exact :
    let n : Int := 9223372036854775808
    let decimal := Value.decimal "\t+09223372036854775808 "
    let json := Value.ofJson (.integer ⟨n, by decide⟩)
    decimal.Carries n ∧ json.Carries n ∧
      decimal.verdict "range:[ 0,+9223372036854775807]" = .ok false ∧
      decimal.verdict "notequal:9223372036854775807, -1" = .ok true ∧
      ∀ pattern, decimal.verdict pattern = json.verdict pattern := by
  intro n decimal json
  have spells : ∀ {text : List Char} {i : Int}, readInt? (trim text) = some i → Spells text i :=
    spells_iff.mpr
  have carried : decimal.Carries n := .decimal ⟨n, by decide⟩ (spells (by decide +kernel))
  have carried' : json.Carries n := .json ⟨n, by decide⟩
  obtain ⟨ranges, lists, alike⟩ := integer_rules_exact carried
  have least : Spells " 0".toList 0 := spells (by decide +kernel)
  have greatest : Spells "+9223372036854775807".toList 9223372036854775807 := spells (by decide +kernel)
  have ranged := ranges true true ⟨0, by decide⟩ ⟨9223372036854775807, by decide⟩ _ _ least greatest
  have listed := lists [("9223372036854775807".toList, ⟨9223372036854775807, by decide⟩),
    (" -1".toList, ⟨-1, by decide⟩)] (by simp) (by
      intro l member
      rcases List.mem_pair.mp member with rfl | rfl
      · exact spells (by decide +kernel)
      · exact spells (by decide +kernel))
  exact ⟨carried, carried', ranged, listed.2, alike json carried'⟩

end Value
end EdgeAlert
