import Mathlib.Algebra.Ring.Nat
import EdgeAlert.Proofs.Checker.Replay
import EdgeAlert.Proofs.Intake.Reading

/-!
# Requests

What a checker makes of the requests of a service: events, changes of the rules, and whole intakes.
`serve_replays` and `serve_reports` say that the alerts that are posted tell how the store changed, and
that what is returned for the requests counts them.
-/

namespace EdgeAlert

inductive Request where
  | handle (event : Event)
  | update (rules : Rules)
  | intake (bytes : List UInt8)

inductive Report where
  | changes (count : Nat)
  | counts (counts : IntakeCounts)
  | brokenOff
  deriving DecidableEq

def Report.alerts : Report → Nat
  | .changes count => count
  | .counts total => total.alerts
  | .brokenOff => 0

structure Served where
  checker : Checker
  alerts : List Alert := []
  reports : List Report := []

def Served.andThen (first second : Served) : Served where
  checker := second.checker
  alerts := first.alerts ++ second.alerts
  reports := first.reports ++ second.reports

theorem Served.andThen_assoc (a b c : Served) : (a.andThen b).andThen c = a.andThen (b.andThen c) := by
  simp [Served.andThen]

structure Reading where
  lines : List (List UInt8)
  counts : IntakeCounts := {}

namespace Checker

def readOn (checker : Checker) (intake : Reading) : Served :=
  let result := Intake.readLines { checker, counts := intake.counts } intake.lines
  { checker := result.progress.checker
    alerts := result.progress.alerts
    reports := [if result.completed then .counts result.progress.counts else .brokenOff] }

def answer (checker : Checker) : Request → Served
  | .handle event =>
    let reaction := checker.handle event
    { checker := checker.settle reaction
      alerts := reaction.alerts
      reports := [.changes reaction.changes] }
  | .update rules => { checker := (checker.update rules).value }
  | .intake bytes => checker.readOn { lines := Intake.inputLines bytes }

def serve (checker : Checker) : List Request → Served
  | [] => { checker }
  | request :: rest => (checker.answer request).andThen (serve (checker.answer request).checker rest)

end Checker

def Served.thenServe (first : Served) (requests : List Request) : Served :=
  first.andThen (first.checker.serve requests)

theorem Served.andThen_thenServe (first second : Served) (requests : List Request) :
    (first.andThen second).thenServe requests = first.andThen (second.thenServe requests) :=
  Served.andThen_assoc _ _ _

namespace Checker

theorem readOn_cons (checker : Checker) (line : List UInt8) (lines : List (List UInt8))
    (counts : IntakeCounts) :
    checker.readOn ⟨line :: lines, counts⟩ =
      match Text.ofUtf8? line with
      | none => { checker, reports := [.brokenOff] }
      | some text =>
        let counts := { counts with lines := counts.lines + 1 }
        match Intake.Line.read text with
        | .event event =>
          let reaction := checker.handle event
          let counts :=
            { counts with events := counts.events + 1, alerts := counts.alerts + reaction.changes }
          Served.andThen { checker := checker.settle reaction, alerts := reaction.alerts }
            ((checker.settle reaction).readOn ⟨lines, counts⟩)
        | .passedOver | .unreadable =>
          checker.readOn ⟨lines, { counts with skipped := counts.skipped + 1 }⟩ := by
  unfold readOn
  dsimp only
  rw [Intake.readLines]
  cases Text.ofUtf8? line with
  | none => rfl
  | some text =>
    dsimp only
    obtain ⟨left, alerts, counted, completed⟩ := Intake.readLines_from
      (Intake.Progress.read { checker, counts } text) lines
    rw [left, alerts, counted, completed]
    unfold Intake.Progress.read
    cases Intake.Line.read text <;> rfl

theorem readOn_spec (checker : Checker) (intake : Reading) :
    let texts := Intake.readable intake.lines
    let ran := checker.run ((Intake.handed texts).map .handle)
    let counts := Intake.together intake.counts (Intake.tally texts ran.2)
    let completed := intake.lines.all fun line => (Text.ofUtf8? line).isSome
    checker.readOn intake =
      { checker := ran.1
        alerts := ran.2
        reports := [if completed then .counts counts else .brokenOff] } := by
  obtain ⟨checker', alerts, counts, completed⟩ :=
    Intake.readLines_spec { checker, counts := intake.counts } intake.lines
  obtain ⟨left, posted, counted⟩ :=
    Intake.foldl_read_spec { checker, counts := intake.counts } (Intake.readable intake.lines)
  unfold readOn
  dsimp only
  rw [checker', alerts, counts, completed, left, posted, counted]
  rfl

theorem answer_replays (checker : Checker) (request : Request) :
    checker.store.Replays (checker.answer request).alerts (checker.answer request).checker.store := by
  cases request with
  | handle event => exact handle_replays checker event
  | update rules => exact .nil
  | intake bytes =>
    rw [answer, readOn_spec]
    exact run_replays checker _

theorem serve_replays (checker : Checker) (requests : List Request) :
    checker.store.Replays (checker.serve requests).alerts (checker.serve requests).checker.store := by
  induction requests generalizing checker with
  | nil => exact .nil
  | cons request rest ih => exact (answer_replays checker request).append (ih _)

/-- What is returned for a request counts the alerts that it posted. -/
theorem answer_reports (checker : Checker) (request : Request)
    (whole : Report.brokenOff ∉ (checker.answer request).reports) :
    ((checker.answer request).reports.map Report.alerts).sum = (checker.answer request).alerts.length := by
  cases request with
  | handle event => exact handle_changes checker event
  | update rules => rfl
  | intake bytes =>
    rw [answer, readOn_spec] at whole ⊢
    dsimp only at whole ⊢
    split at whole
    · simp [*, Report.alerts, Intake.together, Intake.tally]
    · exact absurd List.mem_cons_self whole

theorem serve_reports (checker : Checker) (requests : List Request)
    (whole : Report.brokenOff ∉ (checker.serve requests).reports) :
    ((checker.serve requests).reports.map Report.alerts).sum = (checker.serve requests).alerts.length := by
  induction requests generalizing checker with
  | nil => rfl
  | cons request rest ih =>
    have first := answer_reports checker request fun member => whole (List.mem_append_left _ member)
    have others := ih (checker.answer request).checker fun member => whole (List.mem_append_right _ member)
    simp [serve, Served.andThen, first, others]

end Checker

end EdgeAlert
