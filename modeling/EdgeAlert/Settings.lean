import EdgeAlert.Decimal.Layout
import EdgeAlert.NodeId.Codec
import EdgeAlert.Notice
import EdgeAlert.Rules
import EdgeAlert.Toml.Reader

/-!
# Settings

The settings of the service, read from a TOML document. Settings that are not given have defaults and
unknown ones are passed over; of several faults the first in the document is reported. The table of
rules may nest as it likes: `Settings.rules` flattens it to keys joined with dots.
-/

namespace EdgeAlert

structure Settings where
  logLevel : String := "decanter=info"
  snapshotPath : String := "data/decanter/alerter.db"
  jsonAlerts : Bool := false
  nodeId : NodeId := .standard
  checker : Toml.Table := []

namespace Settings

inductive Fault where
  | document
  | nodeId (e : NodeId.OutOfRange)
  deriving DecidableEq

def readPart? : Toml.Value → Option Int
  | .integer i => (Signed.ofInt? 32 i.1).map Subtype.val
  | _ => none

def readNodeId : Toml.Value → Except Fault NodeId
  | .array (machine :: node :: _) =>
    match readPart? machine, readPart? node with
    | some machine, some node => (NodeId.ofParts machine node).mapError .nodeId
    | _, _ => .error .document
  | _ => .error .document

/-- The key under which a date stands that is given in place of a table. -/
def datetimeKey : String := "$__toml_private_datetime"

def readEntry (settings : Settings) (entry : String × Toml.Value) : Except Fault Settings :=
  match entry with
  | ("log_level", .string logLevel) => .ok { settings with logLevel }
  | ("snapshot_path", .string snapshotPath) => .ok { settings with snapshotPath }
  | ("json_alerts", .boolean jsonAlerts) => .ok { settings with jsonAlerts }
  | ("id_node", v) => (readNodeId v).map fun nodeId => { settings with nodeId }
  | ("checker", .table checker) => .ok { settings with checker }
  | ("checker", .datetime text) => .ok { settings with checker := [(datetimeKey, .string text)] }
  | ("log_level", _) | ("snapshot_path", _) | ("json_alerts", _) | ("checker", _) => .error .document
  | _ => .ok settings

def read (text : String) : Except Fault Settings :=
  match Toml.read text with
  | none => .error .document
  | some entries => entries.foldlM readEntry {}

/-- Numbers in rules are written without an exponent, and whole ones keep a zero after the point. -/
def numberLayout : Layout := { Layout.plain with wholeSuffix := ".0", nan := "nan" }

def scalarText? : Toml.Value → Option String
  | .string s => some s
  | .integer i => some (String.ofList (Decimal.writeInt i.1))
  | .float x => some (numberLayout.write x)
  | .boolean b => some (if b then "true" else "false")
  | .datetime _ | .array _ | .table _ => none

/-- An entry put before the first one with a greater key. -/
def putInOrder {α : Type} (key : String) (value : α) : List (String × α) → List (String × α)
  | [] => [(key, value)]
  | (k, v) :: rest =>
    if key < k then (key, value) :: (k, v) :: rest else (k, v) :: putInOrder key value rest

mutual

def inOrder : Toml.Value → Toml.Value
  | .table entries => .table (entriesInOrder entries)
  | v => v

def entriesInOrder : Toml.Table → Toml.Table
  | [] => []
  | (key, v) :: rest => putInOrder key (inOrder v) (entriesInOrder rest)

end

/-- The key of an entry inside the table under a key. The table of all rules has the empty key. -/
def joinKey (outer key : String) : String := if outer = "" then key else outer ++ "." ++ key

mutual

def leaves (key : String) : Toml.Value → List (String × Toml.Value)
  | .table entries => leavesOf key entries
  | v => [(key, v)]

def leavesOf (outer : String) : Toml.Table → List (String × Toml.Value)
  | [] => []
  | (key, v) :: rest => leaves (joinKey outer key) v ++ leavesOf outer rest

end

/-- The rules with one more leaf. A later leaf of the same key replaces an earlier one, and what is no
scalar is passed over. -/
def addLeaf (rules : Noted Rules) (leaf : String × Toml.Value) : Noted Rules :=
  match scalarText? leaf.2 with
  | some text => { rules with value := rules.value.insert leaf.1 text }
  | none => { rules with notices := rules.notices ++ [.ignoredSetting leaf.1] }

def flatten (table : Toml.Table) : Noted Rules :=
  (leavesOf "" (entriesInOrder table)).foldl addLeaf { value := .empty }

def rules (settings : Settings) : Noted Rules := flatten settings.checker

end Settings
end EdgeAlert
