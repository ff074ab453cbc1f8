import EdgeAlert.Decimal.Integer
import EdgeAlert.Severity

/-!
# Notices

What the program tells its operator while it runs. A notice is a fact; its level, its text and its
fields are functions of it.
-/

namespace EdgeAlert

inductive NoticeLevel where
  | info
  | warn
  | error
  deriving DecidableEq

def NoticeLevel.name : NoticeLevel → String
  | .info => "INFO"
  | .warn => "WARN"
  | .error => "ERROR"

def NoticeLevel.ofSeverity : Severity → NoticeLevel
  | .error => .error
  | .warn => .warn

structure IntakeCounts where
  lines : Nat := 0
  events : Nat := 0
  skipped : Nat := 0
  alerts : Nat := 0
  deriving DecidableEq

inductive Notice where
  | malformedPattern (pattern : String)
  | ruleRemoved (identity : String) (severity : Severity)
  | rulesUpdated (keys : Nat)
  | unknownSnapshotLine (line : String)
  | snapshotLoaded (errors warns : Nat)
  | snapshotSaved
  | alertDropped (identity : String)
  | handlerFailed (handler identity : String)
  | outOfPattern (severity : Severity) (identity pattern : String)
  | backToNormal (identity pattern : String)
  | alertDetails (severity : Severity) (details : String)
  | unreadableLine (number : Nat)
  | intakeFinished (counts : IntakeCounts)
  /-- A setting of the rule table is neither a text nor a number nor a truth value. -/
  | ignoredSetting (key : String)
  | serviceStarted (rules : Nat) (snapshot : String) (errors warns : Nat) (node : String)
  | intakeFailed
  | serviceStopped (alerts : Nat)
  deriving DecidableEq

namespace Notice

def level : Notice → NoticeLevel
  | .ruleRemoved _ _ | .rulesUpdated _ | .snapshotLoaded _ _ | .snapshotSaved | .backToNormal _ _
  | .intakeFinished _ | .serviceStarted _ _ _ _ _ | .serviceStopped _ => .info
  | .malformedPattern _ | .alertDropped _ | .unreadableLine _ | .ignoredSetting _ => .warn
  | .unknownSnapshotLine _ | .handlerFailed _ _ | .intakeFailed => .error
  | .outOfPattern severity _ _ | .alertDetails severity _ => .ofSeverity severity

def message : Notice → String
  | .malformedPattern _ => "Ignoring malformed alert pattern"
  | .ruleRemoved _ _ => "Alert rule removed, clearing alert"
  | .rulesUpdated _ => "Checker configuration updated"
  | .unknownSnapshotLine _ => "Unknown severity in alert snapshot line"
  | .snapshotLoaded _ _ => "Alert snapshot loaded"
  | .snapshotSaved => "Alert snapshot saved"
  | .alertDropped _ => "Alert dropped"
  | .handlerFailed _ _ => "Failed to handle alert"
  | .outOfPattern _ _ _ => "DECANTER ALERT: out of pattern"
  | .backToNormal _ _ => "DECANTER ALERT BACK TO NORMAL: was out of pattern"
  | .alertDetails _ _ => "DECANTER ALERT: Details"
  | .unreadableLine _ => "Skipping unparsable event line"
  | .intakeFinished _ => "Intake finished"
  | .ignoredSetting _ => "Ignoring non-scalar checker setting"
  | .serviceStarted _ _ _ _ _ => "decanter-server starting"
  | .intakeFailed => "Event intake failed"
  | .serviceStopped _ => "decanter-server stopped"

def count (n : Nat) : String := String.ofList (Decimal.digits n)

def fields : Notice → List (String × String)
  | .malformedPattern pattern => [("pattern", pattern)]
  | .ruleRemoved identity severity => [("identity", identity), ("severity", severity.name)]
  | .rulesUpdated keys => [("keys", count keys)]
  | .unknownSnapshotLine line => [("line", line)]
  | .snapshotLoaded errors warns => [("error", count errors), ("warn", count warns)]
  | .snapshotSaved => []
  | .alertDropped identity => [("attribute", identity)]
  | .handlerFailed handler identity => [("handler", handler), ("attribute", identity)]
  | .outOfPattern _ identity pattern | .backToNormal identity pattern =>
    [("attribute", identity), ("pattern", pattern)]
  | .alertDetails _ details => [("details", details)]
  | .unreadableLine number => [("line_no", count number)]
  | .intakeFinished counts =>
    [("lines", count counts.lines), ("events", count counts.events),
      ("skipped", count counts.skipped), ("alerts", count counts.alerts)]
  | .ignoredSetting key => [("key", key)]
  | .serviceStarted rules snapshot errors warns node =>
    [("rules", count rules), ("snapshot", snapshot), ("error_alerts", count errors),
      ("warn_alerts", count warns), ("id_node", node)]
  | .intakeFailed => []
  | .serviceStopped alerts => [("alerts", count alerts)]

end Notice

/-- A result with the notices made on the way to it. -/
structure Noted (α : Type) where
  value : α
  notices : List Notice := []

end EdgeAlert
