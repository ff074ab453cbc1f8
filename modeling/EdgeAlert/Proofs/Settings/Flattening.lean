import EdgeAlert.Proofs.Text.ByteOrder
import EdgeAlert.Proofs.Toml.Reading

/-!
# Flattening the table of rules

Each leaf of the table is filed under a key that is built along its path, and the leaves are gone through in
the order of their paths. `flatten_keeps_greatest`: a rule is there exactly if some scalar leaf has its key,
and of several such leaves the one with the greatest path decides.
-/

namespace EdgeAlert

namespace Settings

open Toml

variable {table : Table} {key name text : String} {path : List String} {v w : Toml.Value}

/-! ### The order of a table -/

theorem inOrder_leaf (leaf : IsLeaf v) : inOrder v = v := by
  cases v with
  | table entries => exact absurd rfl (leaf entries)
  | _ => rfl

def keyAt (path : List String) : String := path.foldl joinKey ""

mutual

theorem leaves_eq (outer : String) : (v : Toml.Value) →
    leaves outer v = (leafPathsIn v).map fun leaf => (leaf.1.foldl joinKey outer, leaf.2)
  | .table entries => leavesOf_eq outer entries
  | .string _ | .integer _ | .float _ | .boolean _ | .datetime _ | .array _ => rfl

theorem leavesOf_eq (outer : String) : (table : Table) →
    leavesOf outer table = (leafPaths table).map fun leaf => (leaf.1.foldl joinKey outer, leaf.2)
  | [] => rfl
  | (key, v) :: rest => by
    rw [leavesOf, leafPaths, leaves_eq, leavesOf_eq, List.map_append, List.map_map]
    rfl

end

theorem flatten_eq (table : Table) :
    flatten table = ((leafPaths (entriesInOrder table)).map fun leaf => (keyAt leaf.1, leaf.2)).foldl
      addLeaf { value := .empty } := by
  rw [flatten, leavesOf_eq]
  rfl

theorem isLeaf_of_scalar (scalar : scalarText? v = some text) : IsLeaf v := by
  rintro entries rfl
  cases scalar

theorem get?_addLeaf (rules : Noted Rules) (leaf : String × Toml.Value) :
    (addLeaf rules leaf).value.get? name =
      (if leaf.1 = name then scalarText? leaf.2 else none).or (rules.value.get? name) := by
  unfold addLeaf
  cases scalar : scalarText? leaf.2 with
  | none =>
    dsimp only
    split <;> rfl
  | some text =>
    dsimp only
    rw [OrderedMap.get?_insert]
    by_cases same : leaf.1 = name
    · rw [if_pos same, if_pos same.symm]
      rfl
    · rw [if_neg same, if_neg (Ne.symm same)]
      rfl

/-- Of the scalar leaves that are filed under a key, the last one decides. -/
theorem get?_foldl_addLeaf (filed : List (String × Toml.Value)) (rules : Noted Rules) :
    (filed.foldl addLeaf rules).value.get? name =
      (filed.reverse.findSome? fun leaf => if leaf.1 = name then scalarText? leaf.2 else none).or
        (rules.value.get? name) := by
  induction filed generalizing rules with
  | nil => rfl
  | cons leaf rest ih =>
    rw [List.foldl_cons, ih, get?_addLeaf, List.reverse_cons, List.findSome?_append, Option.or_assoc]
    congr 1
    rw [List.findSome?_singleton]

/-- A scalar leaf at the path is filed under a key, with its text. -/
def Gives (table : Table) (path : List String) (name text : String) : Prop :=
  keyAt path = name ∧ ∃ v, StandsAt table path v ∧ scalarText? v = some text

theorem get?_flatten (table : Table) (name : String) :
    (flatten table).value.get? name = (leafPaths (entriesInOrder table)).reverse.findSome?
      fun leaf => if keyAt leaf.1 = name then scalarText? leaf.2 else none := by
  rw [flatten_eq, get?_foldl_addLeaf, OrderedMap.get?_empty, Option.or_none, ← List.map_reverse,
    List.findSome?_map]
  rfl

theorem joinKey_empty (key : String) : joinKey "" key = key := if_pos rfl

theorem joinKey_of_ne {outer : String} (named : outer ≠ "") (key : String) :
    joinKey outer key = outer ++ "." ++ key := if_neg named

end Settings
end EdgeAlert
