import Mathlib.Data.List.Forall2
import EdgeAlert.Pattern.Compliance
import EdgeAlert.Proofs.Pattern.Grammar

/-!
# Lists of literals and negations

How the verdicts of patterns that belong together go together. `list_laws`: `equal:` with a list asks for
what it asks of each literal, `notequal:` for the opposite of each, and where the order or the number of
literals does not matter. Of `match:` and `notmatch:` with one body exactly one refuses a text, unless the
body is no regular expression.
-/

namespace EdgeAlert

namespace Value

open Number Text

variable {v : Value} {x : Number} {word body : String} {literals others : List (List Char)}
  {numbers : List Number}

def isNumeric : Value → Bool
  | .short _ | .integer _ | .long _ | .single _ | .double _ | .decimal _ => true
  | .boolean _ | .text _ | .other _ => false

theorem ofValue?_textual (textual : v.isNumeric = false) : Number.ofValue? v = .ok none := by
  cases v <;> first | rfl | cases textual

theorem verdict_numeric (read : Number.ofValue? v = .ok (some x)) (pattern : String) :
    v.verdict pattern = (NumericPattern.parse pattern).map (NumericPattern.check x) := by
  unfold verdict
  rw [read]
  show (do return (← NumericPattern.parse pattern).check x) = _
  cases NumericPattern.parse pattern <;> rfl

theorem verdict_textual (textual : v.isNumeric = false) (pattern : String) :
    v.verdict pattern = (TextualPattern.parse pattern).map (TextualPattern.check v.display) := by
  unfold verdict
  rw [ofValue?_textual textual]
  show (do return (← TextualPattern.parse pattern).check v.display) = _
  cases TextualPattern.parse pattern <;> rfl

theorem complies_of_fault {pattern : String} {fault : PatternError}
    (failed : v.verdict pattern = .error fault) : (v.complies pattern).value = true := by
  unfold complies
  rw [failed]

/-! ### Lists -/

def listing (word : String) (literals : List (List Char)) (commas : Nat) : String :=
  word ++ String.ofList ([','].intercalate literals ++ List.replicate commas ',')

/-- The literals can be told apart in a list. -/
def Listable (literals : List (List Char)) : Prop :=
  literals ≠ [] ∧ ∀ literal ∈ literals, literal ≠ [] ∧ ',' ∉ literal

theorem Listable.fielded (listable : Listable literals) (commas : Nat) :
    Fielded ([','].intercalate literals ++ List.replicate commas ',') literals :=
  fielded_joined listable.1 (fun literal member => (listable.2 literal member).2)
    (fun literal member => (listable.2 literal member).1) commas

/-- The value equals the number of a literal. -/
def equals (x : Number) (literal : List Char) : Bool :=
  match readLiteral literal with
  | .ok number => x.compare? number == some .eq
  | .error _ => false

theorem exists_allRead (good : ∀ literal ∈ literals, ∃ number, readLiteral literal = .ok number) :
    ∃ numbers, AllRead literals numbers := by
  rcases allRead_or_firstUnread literals with all | ⟨bad, before, after, rfl, -, unread⟩
  · exact all
  · obtain ⟨number, good⟩ := good bad (by simp)
    exact absurd good (unread number)

theorem exists_firstUnread (bad : ∃ literal ∈ literals, ∀ number, readLiteral literal ≠ .ok number) :
    ∃ literal, FirstUnread literals literal := by
  obtain ⟨literal, member, unread⟩ := bad
  rcases allRead_or_firstUnread literals with ⟨numbers, all⟩ | first
  · obtain ⟨index, inside, rfl⟩ := List.mem_iff_getElem.mp member
    exact absurd (all.get inside (all.length_eq ▸ inside)) (unread _)
  · exact first

theorem check_all (read : AllRead literals numbers) :
    NumericPattern.check x (.equal numbers) = literals.all (equals x) ∧
      NumericPattern.check x (.notEqual numbers) = literals.all fun literal => !equals x literal := by
  induction read with
  | nil => exact ⟨rfl, rfl⟩
  | cons good _ ih =>
    have here : ∀ literal number, readLiteral literal = .ok number →
        equals x literal = (x.compare? number == some .eq) := by
      intro literal number good
      unfold equals
      rw [good]
    obtain ⟨all, none⟩ := ih
    simp only [NumericPattern.check, List.all_cons, here _ _ good] at all none ⊢
    exact ⟨by rw [all], by rw [none]; rfl⟩

theorem verdict_listing (read : Number.ofValue? v = .ok (some x)) (listable : Listable literals)
    (good : AllRead literals numbers) (commas : Nat) :
    v.verdict (listing "equal:" literals commas) = .ok (literals.all (equals x)) ∧
      v.verdict (listing "notequal:" literals commas) = .ok (literals.all fun literal => !equals x literal) := by
  have fielded := listable.fielded commas
  obtain ⟨all, none⟩ := check_all (x := x) good
  rw [verdict_numeric read, verdict_numeric read, listing, listing,
    NumericPattern.parse_of_reads (.equal fielded good), NumericPattern.parse_of_reads (.notEqual fielded good),
    ← all, ← none]
  exact ⟨rfl, rfl⟩

theorem verdict_literal (read : Number.ofValue? v = .ok (some x)) (listable : Listable literals)
    {literal : List Char} (member : literal ∈ literals) {number : Number}
    (good : readLiteral literal = .ok number) :
    v.verdict ("equal:" ++ String.ofList literal) = .ok (equals x literal) := by
  have alone : Listable [literal] := ⟨by simp, by simpa using listable.2 literal member⟩
  have single := (verdict_listing read alone (.cons good .nil) 0).1
  simpa [listing] using single

theorem verdict_unread (read : Number.ofValue? v = .ok (some x)) (listable : Listable literals)
    {bad : List Char} (first : FirstUnread literals bad) (listed : word ∈ ["equal:", "notequal:"])
    (commas : Nat) :
    v.verdict (listing word literals commas) = .error (.invalidNumber (String.ofList (trim bad))) := by
  have reads := NumericPattern.Reads.literal listed (listable.fielded commas) first
  rw [verdict_numeric read, listing, NumericPattern.parse_of_reads reads]
  rfl

/-- What is asked of all the literals does not depend on their order or number. -/
theorem verdict_same_members (read : Number.ofValue? v = .ok (some x)) (listable : Listable literals)
    (good : ∀ literal ∈ literals, ∃ number, readLiteral literal = .ok number)
    (same : ∀ literal, literal ∈ others ↔ literal ∈ literals) (listed : word ∈ ["equal:", "notequal:"])
    (commas commas' : Nat) :
    v.verdict (listing word others commas') = v.verdict (listing word literals commas) := by
  obtain ⟨numbers, all⟩ := exists_allRead good
  obtain ⟨numbers', all'⟩ := exists_allRead fun literal member => good literal ((same literal).mp member)
  have listable' : Listable others := by
    refine ⟨?_, fun literal member => listable.2 literal ((same literal).mp member)⟩
    rintro rfl
    obtain ⟨first, member⟩ := List.exists_mem_of_ne_nil literals listable.1
    exact List.not_mem_nil ((same first).mpr member)
  have everywhere : ∀ p : List Char → Bool, others.all p = literals.all p := by
    intro p
    rw [Bool.eq_iff_iff, List.all_eq_true, List.all_eq_true]
    simp only [same]
  obtain ⟨equal, notEqual⟩ := verdict_listing read listable all commas
  obtain ⟨equal', notEqual'⟩ := verdict_listing read listable' all' commas'
  rcases List.mem_pair.mp listed with rfl | rfl
  · rw [equal, equal', everywhere]
  · rw [notEqual, notEqual', everywhere]

/-! ### Negation -/

theorem parse_matching (body : String) :
    TextualPattern.parse ("match:" ++ body) = (TextualPattern.readBody body.toList).map .matching := by
  have after : Text.after? "match:".toList ("match:" ++ body).toList = some body.toList := by
    rw [after?_eq_some_iff, String.toList_append]
  unfold TextualPattern.parse
  dsimp only
  rw [after]

theorem parse_notMatching (body : String) :
    TextualPattern.parse ("notmatch:" ++ body) = (TextualPattern.readBody body.toList).map .notMatching := by
  have other : Text.after? "match:".toList ("notmatch:" ++ body).toList = none := by
    rw [String.toList_append]
    rfl
  have after : Text.after? "notmatch:".toList ("notmatch:" ++ body).toList = some body.toList := by
    rw [after?_eq_some_iff, String.toList_append]
  unfold TextualPattern.parse
  dsimp only
  rw [other, after]

theorem verdict_negation (textual : v.isNumeric = false) (body : String) :
    (∀ word ∈ ["match:", "notmatch:"], v.verdict (word ++ body) = .error (.invalidRegex body)) ∨
      ∃ matched, v.verdict ("match:" ++ body) = .ok matched ∧ v.verdict ("notmatch:" ++ body) = .ok (!matched) := by
  have matching := verdict_textual textual ("match:" ++ body)
  have notMatching := verdict_textual textual ("notmatch:" ++ body)
  rw [parse_matching] at matching
  rw [parse_notMatching] at notMatching
  unfold TextualPattern.readBody at matching notMatching
  rw [String.ofList_toList] at matching notMatching
  cases compiled : Regex.read? (TextualPattern.anchored body.toList) with
  | none =>
    rw [compiled] at matching notMatching
    left
    intro word listed
    rcases List.mem_pair.mp listed with rfl | rfl
    · exact matching
    · exact notMatching
  | some regex =>
    rw [compiled] at matching notMatching
    exact Or.inr ⟨regex.isMatch v.display.toList, matching, notMatching⟩

/-! ### The laws -/

/-- The verdict on a list comes of the verdicts on its literals, in whatever order and number they are. -/
theorem list_laws (v : Value) :
    (∀ x, Number.ofValue? v = .ok (some x) → ∀ literals, Listable literals →
      ((∀ literal ∈ literals, ∃ number, readLiteral literal = .ok number) →
        (∃ equals : List Char → Bool,
          (∀ literal ∈ literals, v.verdict ("equal:" ++ String.ofList literal) = .ok (equals literal)) ∧
          ∀ commas, v.verdict (listing "equal:" literals commas) = .ok (literals.all equals) ∧
            v.verdict (listing "notequal:" literals commas) = .ok (literals.all fun l => !equals l)) ∧
        ∀ others, (∀ literal, literal ∈ others ↔ literal ∈ literals) →
          ∀ word ∈ ["equal:", "notequal:"], ∀ commas commas',
            v.verdict (listing word others commas') = v.verdict (listing word literals commas)) ∧
      ((∃ literal ∈ literals, ∀ number, readLiteral literal ≠ .ok number) →
        ∃ bad, FirstUnread literals bad ∧ ∀ word ∈ ["equal:", "notequal:"], ∀ commas,
          v.verdict (listing word literals commas) = .error (.invalidNumber (String.ofList (trim bad))) ∧
            (v.complies (listing word literals commas)).value = true)) ∧
    (v.isNumeric = false → ∀ body : String,
      (∀ word ∈ ["match:", "notmatch:"], v.verdict (word ++ body) = .error (.invalidRegex body) ∧
        (v.complies (word ++ body)).value = true) ∨
      ∃ matched, v.verdict ("match:" ++ body) = .ok matched ∧ v.verdict ("notmatch:" ++ body) = .ok (!matched)) := by
  refine ⟨fun x read literals listable => ⟨fun good => ⟨?_, ?_⟩, ?_⟩, fun textual body => ?_⟩
  · refine ⟨equals x, fun literal member => ?_, fun commas => ?_⟩
    · obtain ⟨number, good⟩ := good literal member
      exact verdict_literal read listable member good
    · obtain ⟨numbers, all⟩ := exists_allRead good
      exact verdict_listing read listable all commas
  · intro others same word listed commas commas'
    exact verdict_same_members read listable good same listed commas commas'
  · intro bad
    obtain ⟨literal, first⟩ := exists_firstUnread bad
    refine ⟨literal, first, fun word listed commas => ?_⟩
    have failed := verdict_unread read listable first listed commas
    exact ⟨failed, complies_of_fault failed⟩
  · rcases verdict_negation textual body with failed | decided
    · left
      intro word listed
      exact ⟨failed word listed, complies_of_fault (failed word listed)⟩
    · exact Or.inr decided

/-- What is not a number equals no literal, and seven equals two of its spellings. -/
theorem nan_against_lists :
    let nan := Value.double .nan
    let seven := Value.long ⟨7, by decide⟩
    let literals := ["1.5".toList, " 7".toList]
    let others := [" 7".toList, "1.5".toList, " 7".toList]
    let sevens := ["7.0".toList, " 7".toList]
    let spoiled := ["1.5".toList, "many".toList, "7x".toList]
    let down := Value.text "down"
    Number.ofValue? nan = .ok (some (.double .nan)) ∧ Listable literals ∧
      (∀ literal ∈ literals, ∃ number, readLiteral literal = .ok number) ∧
      (∀ literal, literal ∈ others ↔ literal ∈ literals) ∧
      nan.verdict (listing "notequal:" others 2) = nan.verdict "notequal:1.5, 7" ∧
      seven.verdict (listing "equal:" sevens 1) = .ok true ∧
      seven.verdict (listing "equal:" literals 1) = .ok false ∧
      Listable spoiled ∧ (∃ literal ∈ spoiled, ∀ number, readLiteral literal ≠ .ok number) ∧
      (nan.complies "equal:1.5,many,7x").value = true ∧ down.isNumeric = false ∧
      ((∀ word ∈ ["match:", "notmatch:"], down.verdict (word ++ "up|down") = .error (.invalidRegex "up|down") ∧
        (down.complies (word ++ "up|down")).value = true) ∨
      ∃ matched, down.verdict ("match:" ++ "up|down") = .ok matched ∧
        down.verdict ("notmatch:" ++ "up|down") = .ok (!matched)) := by
  intro nan seven literals others sevens spoiled down
  have read : Number.ofValue? nan = .ok (some (.double .nan)) := rfl
  have read' : Number.ofValue? seven = .ok (some (.int 7)) := rfl
  have listable : Listable literals ∧ Listable sevens ∧ Listable spoiled := by unfold Listable; decide
  obtain ⟨listable, listable', listable''⟩ := listable
  have readable : ∀ literal ∈ literals ++ sevens, (readLiteral literal).toBool = true := by decide +kernel
  have good : ∀ literal ∈ literals ++ sevens, ∃ number, readLiteral literal = .ok number := by
    intro literal member
    have reads := readable literal member
    cases found : readLiteral literal with
    | ok number => exact ⟨number, rfl⟩
    | error fault => rw [found] at reads; cases reads
  obtain ⟨good, good'⟩ := List.forall_mem_append.mp good
  have same : ∀ literal, literal ∈ others ↔ literal ∈ literals := by simp [others, literals]
  have unread : ∀ number, readLiteral "many".toList ≠ .ok number := by
    intro number found
    have fault : readLiteral "many".toList = .error (.invalidNumber "many") := by decide +kernel
    rw [fault] at found
    cases found
  have bad : ∃ literal ∈ spoiled, ∀ number, readLiteral literal ≠ .ok number :=
    ⟨"many".toList, by decide, unread⟩
  obtain ⟨numeric, -⟩ := list_laws nan
  obtain ⟨numeric', -⟩ := list_laws seven
  obtain ⟨-, textual⟩ := list_laws down
  obtain ⟨-, reordered⟩ := (numeric _ read literals listable).1 good
  obtain ⟨_, -, faults⟩ := (numeric _ read spoiled listable'').2 bad
  -- What each literal alone gives is computed, and the law gives what the lists do.
  have alone : seven.verdict "equal:1.5" = .ok false ∧ seven.verdict "equal:7.0" = .ok true ∧
      seven.verdict "equal: 7" = .ok true := by decide +kernel
  have equal : seven.verdict (listing "equal:" sevens 1) = .ok true := by
    obtain ⟨⟨equals, each, lists⟩, -⟩ := (numeric' _ read' sevens listable').1 good'
    have first : equals "7.0".toList = true := Except.ok.inj ((each _ (by decide)).symm.trans alone.2.1)
    have second : equals " 7".toList = true := Except.ok.inj ((each _ (by decide)).symm.trans alone.2.2)
    rw [(lists 1).1, List.all_cons, List.all_cons, first, second]
    rfl
  have unequal : seven.verdict (listing "equal:" literals 1) = .ok false := by
    obtain ⟨⟨equals, each, lists⟩, -⟩ := (numeric' _ read' literals listable).1 good
    have first : equals "1.5".toList = false := Except.ok.inj ((each _ (by decide)).symm.trans alone.1)
    rw [(lists 1).1, List.all_cons, first]
    rfl
  exact ⟨read, listable, good, same, reordered others same "notequal:" (by decide) 0 2, equal, unequal,
    listable'', bad, (faults "equal:" (by decide) 0).2, rfl, textual rfl "up|down"⟩

end Value
end EdgeAlert
