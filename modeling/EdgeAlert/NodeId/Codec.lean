import EdgeAlert.Json.Reader
import EdgeAlert.Json.Writer
import EdgeAlert.NodeId

/-!
# Node numbers as JSON

A node number is spelled as an array of its two parts. The parts are looked at before what follows
the array, so a part out of range is reported even if more text comes after it.
-/

namespace EdgeAlert.NodeId

inductive Fault where
  | spelling
  | range (e : OutOfRange)
  deriving DecidableEq

def readPart? : Json.Syntax → Option Int
  | .number text => match text.toJson? with
    | some (.integer i) => (Signed.ofInt? 32 i.1).map Subtype.val
    | _ => none
  | _ => none

def parts? : Json.Syntax → Option (Int × Int)
  | .array [machine, node] => do return (← readPart? machine, ← readPart? node)
  | _ => none

def read (text : String) : Except Fault NodeId :=
  match Json.readFront text.toList with
  | none => .error .spelling
  | some (tree, rest) =>
    match parts? tree with
    | none => .error .spelling
    | some (machine, node) =>
      match ofParts machine node with
      | .error e => .error (.range e)
      | .ok id => if Json.skipSpace rest = [] then .ok id else .error .spelling

def toText (id : NodeId) : String :=
  String.ofList
    ('[' :: Decimal.digits id.machine ++ ',' :: Decimal.digits id.node ++ [']'])

end EdgeAlert.NodeId
