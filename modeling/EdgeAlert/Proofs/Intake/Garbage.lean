import EdgeAlert.Proofs.Checker.Replay
import EdgeAlert.Proofs.Intake.Accounting

/-!
# Lines that are no event

A line without an event is passed over if it is UTF-8. If it is not, the intake breaks off there and
loses what comes after the line. `passedOver_iff` says when a line put into an input is passed over.
-/

namespace EdgeAlert.Intake

structure Outcome.PassedOver (without within : Outcome) : Prop where
  completed : without.completed = true → within.completed = true
  alerts : within.alerts = without.alerts
  store : within.checker.store = without.checker.store
  counts : without.completed = true →
    within.counts =
      { without.counts with lines := without.counts.lines + 1, skipped := without.counts.skipped + 1 }

def Outcome.brokenOff (outcome : Outcome) : Outcome := { outcome with completed := false }

variable {checker : Checker} {line : List UInt8}

theorem outcomeOf_garbage (checker : Checker) (text : isText line = true) (garbage : eventOf? line = none) :
    outcomeOf checker [line] = ⟨checker, [], { lines := 1, skipped := 1 }, true⟩ := by
  obtain ⟨content, read⟩ := Option.isSome_iff_exists.mp text
  have single : readable [line] = [content] := by
    rw [readable, read]
    rfl
  have none : Line.event? content = none := by
    rw [eventOf?, read] at garbage
    exact garbage
  have nothing : handed [content] = [] := by
    rw [handed, List.filterMap_cons, none]
    rfl
  unfold outcomeOf
  rw [single, nothing, List.all_cons, text]
  simp [tally, nothing, none, Checker.run]

/-- An intake goes no further than a line that is not UTF-8. -/
theorem outcomeOf_broken (checker : Checker) (rest : List (List UInt8)) (broken : isText line = false) :
    outcomeOf checker (line :: rest) = ⟨checker, [], {}, false⟩ := by
  have unread : Text.ofUtf8? line = none := by
    rw [isText] at broken
    exact Option.not_isSome_iff_eq_none.mp (Bool.eq_false_iff.mp broken)
  unfold outcomeOf
  rw [readable, unread, List.all_cons, broken]
  rfl

theorem inputLines_cons (single : 10 ∉ line) (after : List UInt8) :
    inputLines (line ++ 10 :: after) = Text.dropReturn 13 line :: inputLines after :=
  Text.lines_append single

theorem run_garbage (checker : Checker) (single : 10 ∉ line) (text : isText line = true)
    (garbage : eventOf? (Text.dropReturn 13 line) = none) (after : List UInt8) :
    (run checker (line ++ 10 :: after)).outcome =
      Outcome.andThen ⟨checker, [], { lines := 1, skipped := 1 }, true⟩ (run checker after).outcome := by
  have content : isText (Text.dropReturn 13 line) = true := (isText_dropReturn line).trans text
  rw [run_outcome, inputLines_cons single, ← List.singleton_append, outcomeOf_append, List.all_cons,
    content, outcomeOf_garbage _ content garbage, run_outcome]
  rfl

theorem run_broken (checker : Checker) (single : 10 ∉ line) (broken : isText line = false)
    (after : List UInt8) :
    (run checker (line ++ 10 :: after)).outcome = ⟨checker, [], {}, false⟩ := by
  rw [run_outcome, inputLines_cons single]
  exact outcomeOf_broken checker _ ((isText_dropReturn line).trans broken)

theorem Outcome.passedOver_of_incomplete {outcome : Outcome} (incomplete : outcome.completed = false) :
    outcome.PassedOver outcome where
  completed := id
  alerts := rfl
  store := rfl
  counts done := absurd (incomplete.symm.trans done) Bool.false_ne_true

theorem Outcome.andThen_skipped (first second : Outcome) :
    (first.andThen second).PassedOver
      (first.andThen (Outcome.andThen ⟨first.checker, [], { lines := 1, skipped := 1 }, true⟩ second)) where
  completed := id
  alerts := rfl
  store := rfl
  counts _ := by
    simp only [Outcome.andThen, together, IntakeCounts.mk.injEq]
    omega

theorem run_silent {bytes : List UInt8} (silent : (run checker bytes).outcome.alerts = []) :
    (run checker bytes).outcome.checker = checker := by
  rw [run_outcome] at silent ⊢
  exact Checker.run_handle_silent silent

/-- Stopping early loses nothing only if the rest breaks off anyway and posts nothing. -/
theorem Outcome.passedOver_brokenOff_iff {first second : Outcome}
    (unchanged : second.alerts = [] → second.checker = first.checker) :
    (first.andThen second).PassedOver first.brokenOff ↔
      second.completed = false ∧ second.alerts = [] := by
  constructor
  · intro passed
    refine ⟨Bool.eq_false_iff.mpr fun done => Bool.false_ne_true (passed.completed done), ?_⟩
    exact List.self_eq_append_right.mp passed.alerts
  · rintro ⟨incomplete, silent⟩
    refine ⟨fun done => ?_, ?_, ?_, fun done => ?_⟩
    · exact absurd (incomplete.symm.trans done) Bool.false_ne_true
    · exact List.self_eq_append_right.mpr silent
    · exact (congrArg Checker.store (unchanged silent)).symm
    · exact absurd (incomplete.symm.trans done) Bool.false_ne_true

/-- A line without an event is passed over exactly if it is UTF-8, the intake does not get that far, or it
would break off later anyway with nothing more to post. -/
theorem passedOver_iff (checker : Checker) {before : List UInt8} (after : List UInt8)
    (ended : Text.Ended 10 before) (single : 10 ∉ line)
    (garbage : eventOf? (Text.dropReturn 13 line) = none) :
    let first := run checker before
    let second := run first.progress.checker after
    let without := run checker (before ++ after)
    let within := run checker (before ++ (line ++ 10 :: after))
    (without.outcome.PassedOver within.outcome ↔
        isText line = true ∨ isText before = false ∨
          isText after = false ∧ second.progress.alerts = []) ∧
      (isText line = false → isText before = true →
        within.outcome = first.outcome.brokenOff) := by
  intro first second without within
  have left := run_append checker ended after
  have right := run_append checker ended (line ++ 10 :: after)
  cases reached : isText before with
  | false =>
    -- Neither intake gets as far as the line.
    rw [if_neg (Bool.eq_false_iff.mp reached)] at left right
    have stopped : first.outcome.completed = false := (run_completed checker before).trans reached
    rw [left, right]
    refine ⟨iff_of_true (Outcome.passedOver_of_incomplete stopped) (.inr (.inl rfl)), ?_⟩
    exact fun _ whole => absurd whole Bool.false_ne_true
  | true =>
    rw [if_pos reached] at left right
    cases text : isText line with
    | true =>
      rw [run_garbage _ single text garbage] at right
      rw [left, right]
      refine ⟨iff_of_true (Outcome.andThen_skipped _ _) (.inl rfl), ?_⟩
      exact fun broken => absurd broken.symm Bool.false_ne_true
    | false =>
      -- The one intake breaks off at the line, and the other goes on.
      rw [run_broken _ single text] at right
      have broken : within.outcome = first.outcome.brokenOff := by
        rw [right]
        simp [Outcome.andThen, Outcome.brokenOff, together, first, Result.outcome]
      have unchanged : second.outcome.alerts = [] → second.outcome.checker = first.outcome.checker :=
        run_silent
      have completed : second.outcome.completed = isText after := run_completed _ after
      have posted : second.outcome.alerts = second.progress.alerts := rfl
      refine ⟨?_, fun _ _ => broken⟩
      rw [left, broken, Outcome.passedOver_brokenOff_iff unchanged, completed, posted]
      simp

theorem json_garbage_passedOver :
    let start : Checker := ⟨Checker.usageRules, {}⟩
    let busy := usageLine ⟨95, by decide⟩
    let after := usageLine ⟨10, by decide⟩
    let noise := "not json".toUTF8.toList
    eventOf? (Text.dropReturn 13 noise) = none ∧ (run start busy).progress.alerts.length = 1 ∧
      (run start (busy ++ after)).outcome.PassedOver
        (run start (busy ++ (noise ++ 10 :: after))).outcome := by
  intro start busy after noise
  have garbage : eventOf? (Text.dropReturn 13 noise) = none := by decide +kernel
  obtain ⟨passed, -⟩ := passedOver_iff start after (.inr (by decide +kernel) : Text.Ended 10 busy)
    (by decide +kernel : 10 ∉ noise) garbage
  exact ⟨garbage, by decide +kernel, passed.mpr (.inl (by decide +kernel))⟩

/-- A byte that begins no character keeps the intake from the event after it. -/
theorem byte_garbage_loses_alert :
    let start : Checker := ⟨Checker.usageRules, {}⟩
    let busy := usageLine ⟨95, by decide⟩
    let without := run start ([] ++ busy)
    let within := run start ([] ++ ([255] ++ 10 :: busy))
    eventOf? (Text.dropReturn 13 [255]) = none ∧
      without.completed = true ∧ without.progress.alerts.map Alert.backToNormal = [false] ∧
      within.completed = false ∧ within.progress.alerts = [] ∧
      ¬ without.outcome.PassedOver within.outcome := by
  intro start busy without within
  have whole : without.completed = true ∧ without.progress.alerts.map Alert.backToNormal = [false] := by
    decide +kernel
  have broken : within.completed = false ∧ within.progress.alerts = [] := by decide +kernel
  refine ⟨by decide +kernel, whole.1, whole.2, broken.1, broken.2, fun passed => ?_⟩
  exact Bool.false_ne_true (broken.1.symm.trans (passed.completed whole.1))

end EdgeAlert.Intake
