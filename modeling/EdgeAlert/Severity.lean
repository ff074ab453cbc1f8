/-!
# Severities

The two tiers at which an attribute can alert. They are tracked independently, errors first.
-/

namespace EdgeAlert

inductive Severity where
  | error
  | warn
  deriving DecidableEq, Repr

namespace Severity

/-- Both severities, in the order in which rules are checked and snapshots are written. -/
def all : List Severity := [.error, .warn]

def name : Severity → String
  | .error => "error"
  | .warn => "warn"

def topic (s : Severity) : String := "decanter/alert/" ++ s.name

def ofName? (name : String) : Option Severity := all.find? fun s => s.name = name

structure Unknown where
  text : String
  deriving DecidableEq

def Unknown.message (e : Unknown) : String := "unknown severity: " ++ e.text

/-- The severity named by a text in any case. Only ASCII letters have a letter of the two names as
their lower case, so lowering those alone decides as lowering all would. -/
def parse (text : String) : Except Unknown Severity :=
  match ofName? (String.ofList (text.toList.map Char.toLower)) with
  | some s => .ok s
  | none => .error ⟨text⟩

theorem name_of_ofName? {name : String} {s : Severity} (h : ofName? name = some s) :
    s.name = name := by
  simpa using List.find?_some h

end Severity
end EdgeAlert
