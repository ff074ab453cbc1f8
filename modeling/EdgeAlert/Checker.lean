import EdgeAlert.Alert
import EdgeAlert.Identity
import EdgeAlert.Pattern.Compliance
import EdgeAlert.Store

/-!
# Checker

Every property of an event is held against the rule for it at each severity. An alert is made only
when the identity of the attribute enters or leaves the store; an alert whose rule is gone clears.
-/

namespace EdgeAlert

inductive Judgement where
  | unruled
  | compliant (pattern : String)
  | violating (pattern : String)
  deriving DecidableEq

namespace Judgement

def raises : Judgement → Bool
  | .violating _ => true
  | .unruled | .compliant _ => false

def pattern : Judgement → String
  | .unruled => Alert.removedPattern
  | .compliant pattern | .violating pattern => pattern

end Judgement

/-- What handling an event brings about. -/
structure Reaction where
  store : Store
  alerts : List Alert := []
  changes : Nat := 0
  notices : List Notice := []

/-- The rules in force and the identities that are alerting. -/
structure Checker where
  rules : Rules := .empty
  store : Store := {}

namespace Checker

def judge (rules : Rules) (event : Event) (name : String) (value : Value) (s : Severity) :
    Noted Judgement :=
  match rules.patternFor? name event.type? s with
  | none => { value := .unruled }
  | some pattern =>
    let complies := value.complies pattern
    { value := if complies.value then .compliant pattern else .violating pattern
      notices := complies.notices }

def observe (rules : Rules) (event : Event) (name : String) (value : Value) (s : Severity)
    (store : Store) : Reaction :=
  let identity := event.identity rules event.type? name
  let judged := judge rules event name value s
  let raise := judged.value.raises
  let (store, changed) := store.transition identity s raise
  if changed then
    { store
      alerts := [.about event s identity judged.value.pattern (!raise)]
      changes := 1
      notices := judged.notices ++
        if judged.value = .unruled then [.ruleRemoved identity s] else [] }
  else { store, notices := judged.notices }

/-- The properties of an event with each of the severities, in the order in which they are checked. -/
def observations (event : Event) : List (String × Value × Severity) :=
  event.properties.entries.flatMap fun (name, value) =>
    Severity.all.map fun s => (name, value, s)

def react (rules : Rules) (event : Event) (done : Reaction) (o : String × Value × Severity) :
    Reaction :=
  let next := observe rules event o.1 o.2.1 o.2.2 done.store
  { store := next.store
    alerts := done.alerts ++ next.alerts
    changes := done.changes + next.changes
    notices := done.notices ++ next.notices }

def handle (checker : Checker) (event : Event) : Reaction :=
  (observations event).foldl (react checker.rules event) { store := checker.store }

def settle (checker : Checker) (reaction : Reaction) : Checker :=
  { checker with store := reaction.store }

def update (checker : Checker) (rules : Rules) : Noted Checker :=
  { value := { checker with rules }, notices := [.rulesUpdated rules.size] }

end Checker
end EdgeAlert
