/-!
# Maps in insertion order

A finite map from names to values that keeps its names in the order in which they first came in.
Giving a name that is there already a new value changes the value in place.
-/

namespace EdgeAlert

/-- Entries with `name` set to `value`: in place if the name is there, at the end otherwise. -/
def putEntry {α : Type} (name : String) (value : α) : List (String × α) → List (String × α)
  | [] => [(name, value)]
  | (n, v) :: rest => if n = name then (n, value) :: rest else (n, v) :: putEntry name value rest

def valueOf? {α : Type} (name : String) : List (String × α) → Option α
  | [] => none
  | (n, v) :: rest => if n = name then some v else valueOf? name rest

section Entries

variable {α : Type}

theorem keys_putEntry (name : String) (value : α) (entries : List (String × α)) :
    (putEntry name value entries).map Prod.fst =
      if name ∈ entries.map Prod.fst then entries.map Prod.fst
      else entries.map Prod.fst ++ [name] := by
  induction entries with
  | nil => simp [putEntry]
  | cons e rest ih =>
    obtain ⟨n, v⟩ := e
    by_cases h : n = name
    · simp [putEntry, h]
    · have h' : name ≠ n := fun e => h e.symm
      simp only [putEntry, h, ↓reduceIte, List.map_cons, ih, List.mem_cons, h', false_or]
      split <;> simp

theorem putEntry_of_notMem {name : String} {value : α} {entries : List (String × α)}
    (new : name ∉ entries.map Prod.fst) : putEntry name value entries = entries ++ [(name, value)] := by
  induction entries with
  | nil => rfl
  | cons e rest ih =>
    rw [List.map_cons, List.mem_cons, not_or] at new
    rw [putEntry, if_neg (Ne.symm new.1), ih new.2, List.cons_append]

theorem mem_of_mem_putEntry {name : String} {value : α} {entries : List (String × α)} {e : String × α}
    (h : e ∈ putEntry name value entries) : e = (name, value) ∨ e ∈ entries := by
  induction entries with
  | nil => exact .inl (List.mem_singleton.mp h)
  | cons first rest ih =>
    rw [putEntry] at h
    split at h
    · rename_i same
      rcases List.mem_cons.mp h with new | old
      · exact .inl (same ▸ new)
      · exact .inr (List.mem_cons_of_mem _ old)
    · rcases List.mem_cons.mp h with new | old
      · exact .inr (new ▸ List.mem_cons_self)
      · exact (ih old).imp_right (List.mem_cons_of_mem _)

theorem nodup_putEntry {name : String} {value : α} {entries : List (String × α)}
    (h : (entries.map Prod.fst).Nodup) : ((putEntry name value entries).map Prod.fst).Nodup := by
  rw [keys_putEntry]
  split
  · exact h
  · rename_i hn
    rw [List.nodup_append]
    refine ⟨h, by simp, ?_⟩
    intro a ha b hb hab
    simp only [List.mem_singleton] at hb
    exact hn (hb ▸ hab ▸ ha)

theorem valueOf?_putEntry (name other : String) (value : α) (entries : List (String × α)) :
    valueOf? other (putEntry name value entries) =
      if other = name then some value else valueOf? other entries := by
  induction entries with
  | nil => simp [putEntry, valueOf?, eq_comm]
  | cons e rest ih =>
    obtain ⟨n, v⟩ := e
    by_cases h : n = name
    · by_cases ho : other = name
      · simp [putEntry, valueOf?, h, ho]
      · have h2 : ¬name = other := fun e => ho e.symm
        simp [putEntry, valueOf?, h, ho, h2]
    · by_cases hn : n = other
      · have ho : ¬other = name := fun e => h (hn.trans e)
        simp [putEntry, valueOf?, hn, ho]
      · simp [putEntry, valueOf?, h, hn, ih]

theorem valueOf?_map {β : Type} (f : α → β) (name : String) (entries : List (String × α)) :
    valueOf? name (entries.map fun e => (e.1, f e.2)) =
      (valueOf? name entries).map f := by
  induction entries with
  | nil => rfl
  | cons e rest ih =>
    rw [List.map_cons, valueOf?, valueOf?, ih]
    split <;> rfl

theorem valueOf?_eq_some_iff {name : String} {value : α} {entries : List (String × α)}
    (h : (entries.map Prod.fst).Nodup) :
    valueOf? name entries = some value ↔ (name, value) ∈ entries := by
  induction entries with
  | nil => simp [valueOf?]
  | cons e rest ih =>
    obtain ⟨n, v⟩ := e
    obtain ⟨fresh, rest_nodup⟩ := List.nodup_cons.1 h
    by_cases hn : n = name
    · subst hn
      have absent : (n, value) ∉ rest := fun hm => fresh (List.mem_map.2 ⟨_, hm, rfl⟩)
      simp [absent, valueOf?, eq_comm]
    · have other : ¬name = n := fun e => hn e.symm
      simp [hn, valueOf?, other, ih rest_nodup]

end Entries

/-- A finite map that keeps the order in which its names first came in. -/
structure OrderedMap (α : Type) where
  entries : List (String × α)
  nodup : (entries.map Prod.fst).Nodup
  deriving DecidableEq

namespace OrderedMap

variable {α : Type}

def empty : OrderedMap α := ⟨[], List.nodup_nil⟩

instance : Inhabited (OrderedMap α) := ⟨empty⟩

def insert (m : OrderedMap α) (name : String) (value : α) : OrderedMap α :=
  ⟨putEntry name value m.entries, nodup_putEntry m.nodup⟩

def get? (m : OrderedMap α) (name : String) : Option α := valueOf? name m.entries

def names (m : OrderedMap α) : List String := m.entries.map Prod.fst

def size (m : OrderedMap α) : Nat := m.entries.length

def insertAll (m : OrderedMap α) (entries : List (String × α)) : OrderedMap α :=
  entries.foldl (fun m e => m.insert e.1 e.2) m

def ofList (entries : List (String × α)) : OrderedMap α := empty.insertAll entries

def map {β : Type} (f : α → β) (m : OrderedMap α) : OrderedMap β :=
  ⟨m.entries.map fun e => (e.1, f e.2), by
    rw [List.map_map]
    exact m.nodup⟩

@[ext] theorem ext {a b : OrderedMap α} (same : a.entries = b.entries) : a = b := by
  cases a
  cases b
  cases same
  rfl

@[simp] theorem get?_empty (name : String) : (empty : OrderedMap α).get? name = none := rfl

theorem names_insert (m : OrderedMap α) (name : String) (value : α) :
    (m.insert name value).names = if name ∈ m.names then m.names else m.names ++ [name] :=
  keys_putEntry name value m.entries

theorem entries_insertAll {m : OrderedMap α} {entries : List (String × α)}
    (new : ((m.entries ++ entries).map Prod.fst).Nodup) :
    (m.insertAll entries).entries = m.entries ++ entries := by
  induction entries generalizing m with
  | nil => exact (List.append_nil _).symm
  | cons e rest ih =>
    have fresh : e.1 ∉ m.entries.map Prod.fst := by
      rw [List.map_append, List.map_cons] at new
      intro old
      exact (List.nodup_append.mp new).2.2 e.1 old e.1 List.mem_cons_self rfl
    have put : (m.insert e.1 e.2).entries = m.entries ++ [e] := putEntry_of_notMem fresh
    rw [List.append_cons] at new ⊢
    rw [← put] at new ⊢
    exact ih new

theorem ofList_entries (m : OrderedMap α) : ofList m.entries = m :=
  ext (entries_insertAll m.nodup)

@[simp] theorem names_map {β : Type} (f : α → β) (m : OrderedMap α) : (m.map f).names = m.names := by
  rw [names, map, List.map_map]
  rfl

@[simp] theorem get?_map {β : Type} (f : α → β) (m : OrderedMap α) (name : String) :
    (m.map f).get? name = (m.get? name).map f := valueOf?_map f name m.entries

theorem get?_insert (m : OrderedMap α) (name other : String) (value : α) :
    (m.insert name value).get? other = if other = name then some value else m.get? other :=
  valueOf?_putEntry name other value m.entries

theorem get?_eq_some_iff (m : OrderedMap α) {name : String} {value : α} :
    m.get? name = some value ↔ (name, value) ∈ m.entries :=
  valueOf?_eq_some_iff m.nodup

end OrderedMap
end EdgeAlert
