import EdgeAlert.OrderedMap
import EdgeAlert.Toml.Basic

/-!
# TOML documents under construction

A document is built line by line: a header opens a table, and the keys after it go into that table. A
table remembers how it came about, because that decides what may still be added to it. No key is ever
given a second value.
-/

namespace EdgeAlert.Toml

inductive Origin where
  /-- A header of its own opened it, or it is the whole document. -/
  | declared
  /-- The header of a table inside it named it. -/
  | implied
  /-- A dotted key named it. -/
  | dotted
  deriving DecidableEq

inductive Item where
  | value (v : Value)
  | table (origin : Origin) (entries : List (String × Item))
  /-- The tables that headers in double brackets opened, the last one first. -/
  | tables (elements : List (List (String × Item)))

/-- A table under construction. -/
structure Draft where
  origin : Origin
  entries : List (String × Item)

namespace Draft

def new (origin : Origin) : Draft := ⟨origin, []⟩

def add? (draft : Draft) (key : String) (item : Item) : Option Draft :=
  match valueOf? key draft.entries with
  | some _ => none
  | none => some { draft with entries := putEntry key item draft.entries }

def put (draft : Draft) (key : String) (item : Item) : Draft :=
  { draft with entries := putEntry key item draft.entries }

/-- Tables on the way that are not there come about, and of an array of tables the last one is meant. A dotted
path does not go through tables that have a header of their own. -/
def changeAt? (dotted : Bool) (change : Draft → Option Draft) : List String → Draft → Option Draft
  | [], draft => change draft
  | key :: path, draft =>
    match valueOf? key draft.entries with
    | none => do
      let inner ← changeAt? dotted change path (.new (if dotted then .dotted else .implied))
      return draft.put key (.table inner.origin inner.entries)
    | some (.value _) => none
    | some (.table origin entries) =>
      if dotted ∧ origin = .declared then none
      else do
        let inner ← changeAt? dotted change path ⟨origin, entries⟩
        return draft.put key (.table inner.origin inner.entries)
    | some (.tables []) => none
    | some (.tables (last :: earlier)) => do
      let inner ← changeAt? dotted change path ⟨.declared, last⟩
      return draft.put key (.tables (inner.entries :: earlier))

/-- The table with a value under a dotted key. Keys with dots add to tables that such keys made, and
keys without dots to the others. -/
def assign? (draft : Draft) (path : List String) (key : String) (v : Value) : Option Draft :=
  draft.changeAt? true (fun inner =>
    if (inner.origin = .dotted) ↔ path = [] then none else inner.add? key (.value v)) path

def openTable? (draft : Draft) (path : List String) (key : String) : Option Draft :=
  draft.changeAt? false (fun outer =>
    match valueOf? key outer.entries with
    | none => some (outer.put key (.table .declared []))
    | some (.table .implied entries) => some (outer.put key (.table .declared entries))
    | some _ => none) path

def openElement? (draft : Draft) (path : List String) (key : String) : Option Draft :=
  draft.changeAt? false (fun outer =>
    match valueOf? key outer.entries with
    | none => some (outer.put key (.tables [[]]))
    | some (.tables elements) => some (outer.put key (.tables ([] :: elements)))
    | some _ => none) path

def assignAt? (draft : Draft) (table path : List String) (key : String) (v : Value) : Option Draft :=
  draft.changeAt? false (fun inner => inner.assign? path key v) table

end Draft

mutual

def Item.toValue : Item → Value
  | .value v => v
  | .table _ entries => .table (entriesToTable entries)
  | .tables elements => .array (elementsToValues elements).reverse

def entriesToTable : List (String × Item) → Table
  | [] => []
  | (key, item) :: rest => (key, item.toValue) :: entriesToTable rest

def elementsToValues : List (List (String × Item)) → List Value
  | [] => []
  | element :: rest => .table (entriesToTable element) :: elementsToValues rest

end

def Draft.toTable (draft : Draft) : Table := entriesToTable draft.entries

end EdgeAlert.Toml
