/-!
# Node numbers

The pair of numbers that tells one process from another in the ids of its alerts, and the ids
themselves: a millisecond, the pair, and a running number within the millisecond.
-/

namespace EdgeAlert

inductive NodePart where
  | machine
  | node
  deriving DecidableEq

def NodePart.name : NodePart → String
  | .machine => "machine"
  | .node => "node"

/-- A machine and a node on it; each takes five bits of an alert id. -/
structure NodeId where
  machine : Nat
  node : Nat
  machine_lt : machine < 32
  node_lt : node < 32
  deriving DecidableEq

namespace NodeId

structure OutOfRange where
  part : NodePart
  value : Int
  deriving DecidableEq

def OutOfRange.message (e : OutOfRange) : String :=
  "Id: " ++ e.part.name ++ " id " ++ toString e.value ++ " is outside 0..=31"

/-- The node number with the given parts; the machine is checked first. -/
def ofParts (machine node : Int) : Except OutOfRange NodeId :=
  if hm : 0 ≤ machine ∧ machine < 32 then
    if hn : 0 ≤ node ∧ node < 32 then
      .ok ⟨machine.toNat, node.toNat, by omega, by omega⟩
    else .error ⟨.node, node⟩
  else .error ⟨.machine, machine⟩

def standard : NodeId := ⟨1, 1, by decide, by decide⟩

end NodeId

/-- Where the ids of alerts come from: the node, and the place of the last id on the line of running
numbers. -/
structure IdSource where
  node : NodeId
  last : Nat := 0

namespace IdSource

def perMillisecond : Nat := 4096

/-- The id at a place on the line of running numbers: the millisecond, the machine, the node and the
running number, from the highest bits down. -/
def idAt (node : NodeId) (place : Nat) : Nat :=
  ((place / perMillisecond * 32 + node.machine) * 32 + node.node) * perMillisecond +
    place % perMillisecond

def machineBits (id : Nat) : Nat := id / perMillisecond / 32 % 32

def nodeBits (id : Nat) : Nat := id / perMillisecond % 32

/-- The next id at the given millisecond. Places only go up, so no id comes twice. -/
def next (source : IdSource) (millisecond : Nat) : Nat × IdSource :=
  let place := max (millisecond * perMillisecond) (source.last + 1)
  (idAt source.node place, { source with last := place })

def take (source : IdSource) (millisecond : Nat) : Nat → List Nat × IdSource
  | 0 => ([], source)
  | count + 1 =>
    let (id, source) := source.next millisecond
    let (ids, source) := source.take millisecond count
    (id :: ids, source)

end IdSource
end EdgeAlert
