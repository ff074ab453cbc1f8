import EdgeAlert.Notice
import EdgeAlert.Store
import EdgeAlert.Text.Blank
import EdgeAlert.Text.Lines

/-!
# Snapshots

A store as a text of lines, one for each alerting identity: the severity, a colon and the identity.
Errors come first, and each severity is in ascending order.
-/

namespace EdgeAlert.Store

def entryLine (s : Severity) (identity : String) : List Char :=
  s.name.toList ++ ':' :: (identity.toList ++ ['\n'])

def writeSnapshot (store : Store) : List Char :=
  Severity.all.flatMap fun s => (store.list s).flatMap (entryLine s)

def toSnapshot (store : Store) : String := String.ofList store.writeSnapshot

/-- The severity and the identity of a line, the identity being all that follows the first colon. -/
def readEntry? (line : List Char) : Option (Severity × String) :=
  match line.dropWhile (· ≠ ':') with
  | [] => none
  | _ :: identity =>
    (Severity.ofName? (String.ofList (line.takeWhile (· ≠ ':')))).map fun s =>
      (s, String.ofList identity)

/-- The store after a line of a snapshot. Blank lines are passed over, others that are no entry are
reported. -/
def loadLine (loaded : Noted Store) (line : List Char) : Noted Store :=
  if Text.trim line = [] then loaded
  else match readEntry? line with
    | some (s, identity) => { loaded with value := (loaded.value.add identity s).1 }
    | none =>
      { loaded with notices := loaded.notices ++ [.unknownSnapshotLine (String.ofList line)] }

/-- The store that the text of a snapshot holds. -/
def ofSnapshot (text : String) : Noted Store :=
  let loaded := (Text.lines '\n' '\r' text.toList).foldl loadLine { value := {} }
  { loaded with
    notices := loaded.notices ++ [.snapshotLoaded (loaded.value.size .error) (loaded.value.size .warn)] }

end EdgeAlert.Store
