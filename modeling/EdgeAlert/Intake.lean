import EdgeAlert.Checker
import EdgeAlert.Intake.Line
import EdgeAlert.Text.Lines

/-!
# Intake

Reading collected events line by line and handling each of them. A line that is no event is counted
and passed over; bytes that are not UTF-8 end the intake, and what was handled before them stays.
-/

namespace EdgeAlert.Intake

def inputLines (bytes : List UInt8) : List (List UInt8) := Text.lines 10 13 bytes

structure Progress where
  checker : Checker
  counts : IntakeCounts := {}
  alerts : List Alert := []
  notices : List Notice := []

def Progress.read (p : Progress) (line : String) : Progress :=
  let counts := { p.counts with lines := p.counts.lines + 1 }
  match Line.read line with
  | .event event =>
    let reaction := p.checker.handle event
    { checker := p.checker.settle reaction
      counts := { counts with
        events := counts.events + 1, alerts := counts.alerts + reaction.changes }
      alerts := p.alerts ++ reaction.alerts
      notices := p.notices ++ reaction.notices }
  | .passedOver => { p with counts := { counts with skipped := counts.skipped + 1 } }
  | .unreadable =>
    { p with
      counts := { counts with skipped := counts.skipped + 1 }
      notices := p.notices ++ [.unreadableLine counts.lines] }

structure Result where
  progress : Progress
  /-- All lines were UTF-8. -/
  completed : Bool

def readLines (p : Progress) : List (List UInt8) → Result
  | [] => ⟨{ p with notices := p.notices ++ [.intakeFinished p.counts] }, true⟩
  | bytes :: rest => match Text.ofUtf8? bytes with
    | some line => readLines (p.read line) rest
    | none => ⟨p, false⟩

def run (checker : Checker) (bytes : List UInt8) : Result :=
  readLines { checker } (inputLines bytes)

end EdgeAlert.Intake
