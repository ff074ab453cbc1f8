import EdgeAlert.Proofs.Checker.Clearing
import EdgeAlert.Proofs.Intake.Reading
import EdgeAlert.Proofs.Text.Lines
import EdgeAlert.Proofs.Text.Utf8

/-!
# Accounting for an input

What an intake comes to is a function of the lines of its input, `outcomeOf`: the checker runs on the
events of the lines before the first that is not UTF-8, and all lines are counted if there is no such
line. `outcomeOf_append` takes an input apart at the end of a line, and `intake_accounts` sums up.
-/

namespace EdgeAlert.Intake

def isText (bytes : List UInt8) : Bool := (Text.ofUtf8? bytes).isSome

/-- The event that a line of bytes holds. -/
def eventOf? (line : List UInt8) : Option Event := (Text.ofUtf8? line).bind Line.event?

/-! ### The lines that are read -/

theorem readable_eq (lines : List (List UInt8)) :
    readable lines = (lines.takeWhile isText).filterMap Text.ofUtf8? := by
  induction lines with
  | nil => rfl
  | cons line rest ih =>
    rw [readable, List.takeWhile_cons]
    cases read : Text.ofUtf8? line with
    | none => simp [isText, read]
    | some text => simp [isText, read, ih]

theorem handed_readable (lines : List (List UInt8)) :
    handed (readable lines) = (lines.takeWhile isText).filterMap eventOf? := by
  rw [readable_eq, handed, List.filterMap_filterMap]
  rfl

theorem length_readable (lines : List (List UInt8)) :
    (readable lines).length = (lines.takeWhile isText).length := by
  rw [readable_eq]
  have texts : ∀ line ∈ lines.takeWhile isText, (Text.ofUtf8? line).isSome = true := by
    intro line member
    have text : isText line = true := List.mem_takeWhile_imp member
    exact text
  exact List.filterMap_length_eq_length.mpr texts

theorem readable_append (first second : List (List UInt8)) :
    readable (first ++ second) =
      if first.all isText then readable first ++ readable second else readable first := by
  induction first with
  | nil => rfl
  | cons line rest ih =>
    rw [List.cons_append, readable, readable, List.all_cons]
    cases read : Text.ofUtf8? line with
    | none => simp [isText, read]
    | some text =>
      rw [isText, read, Option.isSome_some, Bool.true_and, ih]
      dsimp only
      split <;> rfl

theorem isText_nil : isText [] = true := by decide +kernel

theorem isText_dropReturn (line : List UInt8) : isText (Text.dropReturn 13 line) = isText line := by
  by_cases returned : line.getLast? = some 13
  · obtain ⟨front, rfl⟩ := List.getLast?_eq_some_iff.mp returned
    have cut : isText (front ++ [13]) = true ↔ isText front = true ∧ isText [] = true :=
      Text.isSome_ofUtf8?_cut (by decide)
    rw [Text.dropReturn_concat, Bool.eq_iff_iff]
    exact (cut.trans (and_iff_left isText_nil)).symm
  · rw [Text.dropReturn_of_ne returned]

/-- Cutting an input into lines spoils no character: it is UTF-8 if all of its lines are. -/
theorem all_isText (bytes : List UInt8) : (inputLines bytes).all isText = isText bytes := by
  unfold inputLines
  induction bytes using Text.newline_induction (10 : UInt8) with
  | left line unbroken =>
    rw [Text.lines_of_unbroken unbroken]
    split
    · rename_i empty
      rw [empty, isText_nil]
      rfl
    · simp
  | ended line rest unbroken ih =>
    rw [Text.lines_append unbroken, List.all_cons, ih, isText_dropReturn, Bool.eq_iff_iff,
      Bool.and_eq_true]
    exact (Text.isSome_ofUtf8?_cut (by decide)).symm

theorem inputLines_append {before : List UInt8} (ended : Text.Ended 10 before) (after : List UInt8) :
    inputLines (before ++ after) = inputLines before ++ inputLines after :=
  Text.lines_append_of_ended ended

theorem topic_of_eventOf? {line : List UInt8} {event : Event} (held : eventOf? line = some event) :
    topicLead.toList <+: event.topic.toList := by
  obtain ⟨text, -, held⟩ := Option.bind_eq_some_iff.mp held
  unfold Line.event? at held
  split at held
  · rename_i found read
    obtain rfl := Option.some.inj held
    obtain ⟨rest, after⟩ := Option.isSome_iff_exists.mp (Line.of_read_eq_event read).2
    exact ⟨rest, (Text.after?_eq_some_iff.mp after).symm⟩
  all_goals cases held

/-! ### What an intake comes to -/

structure Outcome where
  checker : Checker
  alerts : List Alert
  counts : IntakeCounts
  completed : Bool

def Result.outcome (result : Result) : Outcome where
  checker := result.progress.checker
  alerts := result.progress.alerts
  counts := result.progress.counts
  completed := result.completed

def outcomeOf (checker : Checker) (lines : List (List UInt8)) : Outcome :=
  let ran := checker.run ((handed (readable lines)).map .handle)
  { checker := ran.1
    alerts := ran.2
    counts := tally (readable lines) ran.2
    completed := lines.all isText }

theorem run_outcome (checker : Checker) (bytes : List UInt8) :
    (run checker bytes).outcome = outcomeOf checker (inputLines bytes) := by
  obtain ⟨checker', alerts, counts, completed⟩ := run_spec checker bytes
  rw [Result.outcome, checker', alerts, counts, completed]
  rfl

theorem run_completed (checker : Checker) (bytes : List UInt8) :
    (run checker bytes).completed = isText bytes :=
  (congrArg Outcome.completed (run_outcome checker bytes)).trans (all_isText bytes)

def Outcome.andThen (first second : Outcome) : Outcome where
  checker := second.checker
  alerts := first.alerts ++ second.alerts
  counts := together first.counts second.counts
  completed := second.completed

theorem outcomeOf_append (checker : Checker) (first second : List (List UInt8)) :
    outcomeOf checker (first ++ second) =
      if first.all isText then
        (outcomeOf checker first).andThen (outcomeOf (outcomeOf checker first).checker second)
      else outcomeOf checker first := by
  unfold outcomeOf Outcome.andThen
  dsimp only
  rw [readable_append, List.all_append]
  cases first.all isText with
  | true =>
    simp only [if_true, handed_append, List.map_append, Checker.run_append, tally_append, Bool.true_and]
  | false => simp

theorem run_append (checker : Checker) {before : List UInt8} (ended : Text.Ended 10 before)
    (after : List UInt8) :
    (run checker (before ++ after)).outcome =
      if isText before then
        (run checker before).outcome.andThen (run (run checker before).progress.checker after).outcome
      else (run checker before).outcome := by
  have left : (run checker before).progress.checker = (outcomeOf checker (inputLines before)).checker :=
    congrArg Outcome.checker (run_outcome checker before)
  rw [run_outcome checker (before ++ after), inputLines_append ended, outcomeOf_append, all_isText,
    run_outcome, run_outcome, left]

/-! ### The account -/

theorem tally_total (texts : List String) (alerts : List Alert) :
    (tally texts alerts).events + (tally texts alerts).skipped = (tally texts alerts).lines := by
  have split := texts.length_eq_countP_add_countP fun text => (Line.event? text).isSome
  simp only [tally, handed, List.length_filterMap_eq_countP]
  rw [split]
  congr 2
  funext text
  cases Line.event? text <;> rfl

theorem takeWhile_isText_iff {lines : List (List UInt8)} :
    lines.all isText = true ↔ lines.takeWhile isText = lines := by
  rw [List.takeWhile_eq_self_iff, List.all_eq_true]

/-- What the lines of an input come to, and how an intake goes on with more of them. -/
theorem intake_accounts (checker : Checker) (bytes : List UInt8) :
    let lines := inputLines bytes
    let leading := lines.takeWhile isText
    let events := leading.filterMap eventOf?
    let ran := checker.run (events.map .handle)
    let result := run checker bytes
    let counts := result.progress.counts
    (∀ cut, Text.Lined 10 13 bytes cut ↔ cut = lines) ∧
      (∀ event ∈ events, topicLead.toList <+: event.topic.toList) ∧
      result.progress.checker = ran.1 ∧ result.progress.alerts = ran.2 ∧
      (result.completed = true ↔ leading.length = lines.length) ∧
      (result.completed = true →
        counts.lines = lines.length ∧ counts.events + counts.skipped = counts.lines ∧
          counts.events = lines.countP (fun line => (eventOf? line).isSome) ∧
          counts.alerts = result.progress.alerts.length) ∧
      (isText bytes = true → Text.Ended 10 bytes → ∀ more,
        result.completed = true ∧ (run checker (bytes ++ more)).outcome =
          result.outcome.andThen (run result.progress.checker more).outcome) := by
  intro lines leading events ran result counts
  have handedOn : handed (readable lines) = events := handed_readable lines
  have outcome := run_outcome checker bytes
  have same : checker.run ((handed (readable lines)).map .handle) = ran := by rw [handedOn]
  have left : result.progress.checker = ran.1 :=
    (congrArg Outcome.checker outcome).trans (congrArg Prod.fst same)
  have posted : result.progress.alerts = ran.2 :=
    (congrArg Outcome.alerts outcome).trans (congrArg Prod.snd same)
  have counted : counts = tally (readable lines) ran.2 := by
    rw [← same]
    exact congrArg Outcome.counts outcome
  have completed : result.completed = lines.all isText := congrArg Outcome.completed outcome
  refine ⟨fun cut => Text.lined_iff (by decide), ?_, left, posted, ?_, ?_, ?_⟩
  · intro event member
    obtain ⟨line, -, held⟩ := List.mem_filterMap.mp member
    exact topic_of_eventOf? held
  · rw [completed, takeWhile_isText_iff]
    exact ⟨congrArg List.length, (List.takeWhile_prefix isText).eq_of_length⟩
  · intro finished
    rw [completed, takeWhile_isText_iff] at finished
    rw [counted]
    refine ⟨?_, tally_total _ _, ?_, ?_⟩
    · exact (length_readable lines).trans (congrArg List.length finished)
    · have events' : (tally (readable lines) ran.2).events = events.length := congrArg List.length handedOn
      rw [events', List.length_filterMap_eq_countP]
      exact congrArg _ finished
    · rw [posted]
      rfl
  · intro text ended more
    exact ⟨(run_completed checker bytes).trans text, (run_append checker ended more).trans (if_pos text)⟩

def usageLine (usage : Signed 64) : List UInt8 :=
  ((Checker.usageEvent usage).toText ++ "\n").toUTF8.toList

theorem usage_accounted :
    let start : Checker := ⟨Checker.usageRules, {}⟩
    let bytes := "not json\r\n".toUTF8.toList ++ usageLine ⟨95, by decide⟩
    let more := 255 :: 10 :: usageLine ⟨10, by decide⟩
    let first := run start bytes
    let whole := run start (bytes ++ more)
    first.completed = true ∧ first.progress.counts = ⟨2, 1, 1, 1⟩ ∧
      first.progress.counts.alerts = first.progress.alerts.length ∧
      whole.outcome = first.outcome.andThen (run first.progress.checker more).outcome ∧
      whole.completed = false ∧ whole.progress.alerts.map Alert.backToNormal = [false] := by
  intro start bytes more first whole
  obtain ⟨-, -, -, -, -, counted, continued⟩ := intake_accounts start bytes
  obtain ⟨completed, outcome⟩ := continued (by decide +kernel) (Or.inr (by decide +kernel)) more
  obtain ⟨counts, raised⟩ : first.progress.counts = ⟨2, 1, 1, 1⟩ ∧
      first.progress.alerts.map Alert.backToNormal = [false] := by decide +kernel
  obtain ⟨broken, silent⟩ : (run first.progress.checker more).completed = false ∧
      (run first.progress.checker more).progress.alerts = [] := by decide +kernel
  have posted : whole.progress.alerts = first.progress.alerts ++ [] :=
    (congrArg Outcome.alerts outcome).trans (congrArg (first.progress.alerts ++ ·) silent)
  refine ⟨completed, counts, (counted completed).2.2.2, outcome, ?_, ?_⟩
  · exact (congrArg Outcome.completed outcome).trans broken
  · rw [posted, List.append_nil, raised]

end EdgeAlert.Intake
