import Mathlib.Data.Finset.Max
import EdgeAlert.Proofs.Store.Membership
import EdgeAlert.Proofs.Text.Lines
import EdgeAlert.Store.Snapshot

/-!
# Loading and saving

A snapshot is loaded by membership: an identity is alerting exactly if its row is one of the lines of
the text. Saving writes the row of every alerting identity, so a store comes back unless the cutting
of lines damages a row. `reload_eq_iff` says which stores come back: those whose identities hold no
line feed and do not end in a carriage return.
-/

namespace EdgeAlert

/-- The identity stands on a line of its own and loses nothing at its end. -/
def OneLine (identity : String) : Prop :=
  '\n' ∉ identity.toList ∧ identity.toList.getLast? ≠ some '\r'

instance (identity : String) : Decidable (OneLine identity) := inferInstanceAs (Decidable (_ ∧ _))

namespace Store

/-- The line that records an identity at a severity, without its end. -/
def row (s : Severity) (identity : String) : List Char := s.name.toList ++ ':' :: identity.toList

variable {store : Store} {x y : String} {s t : Severity} {line : List Char}

/-! ### Rows -/

theorem read_row_iff : readEntry? line = some (s, x) ↔ line = row s x := by
  constructor
  · intro found
    unfold readEntry? at found
    cases rest : line.dropWhile (· ≠ ':') with
    | nil =>
      rw [rest] at found
      cases found
    | cons c identity =>
      rw [rest] at found
      obtain ⟨t, named, same⟩ := Option.map_eq_some_iff.mp found
      obtain ⟨rfl, rfl⟩ := Prod.mk.inj same
      have colon : c = ':' := by
        have first := List.head?_dropWhile_not (fun c : Char => decide (c ≠ ':')) line
        rw [rest] at first
        simpa using first
      have name : t.name.toList = line.takeWhile (· ≠ ':') := by
        rw [Severity.name_of_ofName? named, String.toList_ofList]
      subst colon
      rw [row, name, String.toList_ofList, ← rest]
      exact List.takeWhile_append_dropWhile.symm
  · rintro rfl
    cases s <;> simp [row, readEntry?, Severity.name, Severity.ofName?, Severity.all]

theorem row_inj : row s x = row t y ↔ s = t ∧ x = y := by
  constructor
  · intro same
    have read := read_row_iff.mpr same
    rw [read_row_iff.mpr rfl] at read
    exact Prod.mk.inj (Option.some.inj read)
  · rintro ⟨rfl, rfl⟩
    rfl

theorem row_not_blank : Text.trim (row s x) ≠ [] := by
  intro blank
  have all := Text.trim_eq_nil_iff.mp blank
  cases s with
  | error => exact absurd (all 'e' (List.mem_append_left _ (by decide))) (by decide)
  | warn => exact absurd (all 'w' (List.mem_append_left _ (by decide))) (by decide)

theorem newline_mem_row : '\n' ∈ row s x ↔ '\n' ∈ x.toList := by
  cases s <;> simp [row, Severity.name]

theorem dropReturn_row : Text.dropReturn '\r' (row s x) =
    s.name.toList ++ ':' :: Text.dropReturn '\r' x.toList := by
  have split : row s x = (s.name.toList ++ [':']) ++ x.toList := by simp [row]
  rw [split, Text.dropReturn_append (by simp)]
  simp

/-! ### Loading -/

theorem known_loadLine (loaded : Noted Store) :
    (loadLine loaded line).value.known x s = (decide (line = row s x) || loaded.value.known x s) := by
  unfold loadLine
  split
  · rename_i blank
    have other : line ≠ row s x := by
      rintro rfl
      exact row_not_blank blank
    simp [other]
  · split
    · rename_i t y entry
      rw [read_row_iff] at entry
      subst entry
      rw [known_add]
      congr 1
      rw [decide_eq_decide, row_inj, and_comm, eq_comm (a := s), eq_comm (a := x)]
    · rename_i none
      have other : line ≠ row s x := fun same => by
        rw [read_row_iff.mpr same] at none
        cases none
      simp [other]

theorem known_foldl_loadLine (lines : List (List Char)) (loaded : Noted Store) :
    (lines.foldl loadLine loaded).value.known x s =
      (decide (row s x ∈ lines) || loaded.value.known x s) := by
  induction lines generalizing loaded with
  | nil => simp
  | cons line lines ih =>
    rw [List.foldl_cons, ih, known_loadLine, ← Bool.or_assoc, Bool.or_comm (decide _) (decide _)]
    simp [eq_comm]

/-- An identity is loaded exactly if one of the lines is its row. -/
theorem mem_ofSnapshot (text : String) :
    x ∈ (ofSnapshot text).value.alerting s ↔ row s x ∈ Text.lines '\n' '\r' text.toList := by
  rw [← known_iff]
  unfold ofSnapshot
  dsimp only
  rw [known_foldl_loadLine, known_empty]
  simp

/-! ### Saving -/

def rows (store : Store) : List (List Char) :=
  Severity.all.flatMap fun s => (store.list s).map (row s)

theorem mem_rows : line ∈ store.rows ↔ ∃ s, ∃ x ∈ store.alerting s, line = row s x := by
  unfold rows
  constructor
  · intro member
    obtain ⟨s, -, written⟩ := List.mem_flatMap.mp member
    obtain ⟨x, known, rfl⟩ := List.mem_map.mp written
    exact ⟨s, x, known, rfl⟩
  · rintro ⟨s, x, known, rfl⟩
    exact List.mem_flatMap.mpr ⟨s, by cases s <;> decide, List.mem_map.mpr ⟨x, known, rfl⟩⟩

theorem writeSnapshot_rows (store : Store) :
    store.writeSnapshot = store.rows.flatMap fun line => line ++ ['\n'] := by
  unfold writeSnapshot rows
  rw [List.flatMap_assoc]
  congr 1
  funext s
  rw [List.flatMap_map]
  congr 1
  funext x
  simp [entryLine, row]

/-! ### Coming back -/

theorem mem_reload (unbroken : ∀ s, ∀ x ∈ store.alerting s, '\n' ∉ x.toList) :
    x ∈ (ofSnapshot store.toSnapshot).value.alerting s ↔
      ∃ y ∈ store.alerting s, Text.dropReturn '\r' y.toList = x.toList := by
  have whole : ∀ line ∈ store.rows, '\n' ∉ line := by
    intro line member
    obtain ⟨t, y, known, rfl⟩ := mem_rows.mp member
    exact fun inside => unbroken t y known (newline_mem_row.mp inside)
  rw [mem_ofSnapshot, toSnapshot, String.toList_ofList, writeSnapshot_rows, Text.lines_flatMap whole,
    List.mem_map]
  constructor
  · rintro ⟨line, member, cut⟩
    obtain ⟨t, y, known, rfl⟩ := mem_rows.mp member
    rw [dropReturn_row] at cut
    have same : row t (String.ofList (Text.dropReturn '\r' y.toList)) = row s x := by
      rw [row, String.toList_ofList, cut, row]
    obtain ⟨rfl, rest⟩ := row_inj.mp same
    exact ⟨y, known, by rw [← rest, String.toList_ofList]⟩
  · rintro ⟨y, known, cut⟩
    refine ⟨row s y, mem_rows.mpr ⟨s, y, known, rfl⟩, ?_⟩
    rw [dropReturn_row, cut, row]

/-- The longest identity that ends in a carriage return could only come back from a longer one. -/
theorem no_return_of_reload (unbroken : ∀ s, ∀ x ∈ store.alerting s, '\n' ∉ x.toList)
    (back : (ofSnapshot store.toSnapshot).value = store) (known : x ∈ store.alerting s) :
    x.toList.getLast? ≠ some '\r' := by
  intro returned
  let damaged := ((store.list s).toFinset).filter fun x => x.toList.getLast? = some '\r'
  have member : ∀ y, y ∈ damaged ↔ y ∈ store.alerting s ∧ y.toList.getLast? = some '\r' := by
    simp [damaged, list, IdentitySet.mem_def]
  obtain ⟨y, here, longest⟩ :=
    damaged.exists_max_image (fun y => y.toList.length) ⟨x, (member x).mpr ⟨known, returned⟩⟩
  obtain ⟨known, returned⟩ := (member y).mp here
  rw [← back, mem_reload unbroken] at known
  obtain ⟨z, known, cut⟩ := known
  unfold Text.dropReturn at cut
  split at cut
  · rename_i ends
    have shorter := longest z ((member z).mpr ⟨known, ends⟩)
    have nonempty : z.toList ≠ [] := by
      intro empty
      rw [empty] at ends
      cases ends
    have positive := List.length_pos_iff.mpr nonempty
    rw [← cut, List.length_dropLast] at shorter
    omega
  · rename_i ends
    exact ends (cut ▸ returned)

/-- The stores that come back from their snapshots are those whose identities each fill one line. -/
theorem reload_eq_iff (store : Store) :
    (ofSnapshot store.toSnapshot).value = store ↔ ∀ s, ∀ x ∈ store.alerting s, OneLine x := by
  constructor
  · intro back
    have unbroken : ∀ s, ∀ x ∈ store.alerting s, '\n' ∉ x.toList := by
      intro s x known inside
      rw [← back, mem_ofSnapshot] at known
      exact Text.notMem_of_mem_lines known (newline_mem_row.mpr inside)
    exact fun s x known => ⟨unbroken s x known, no_return_of_reload unbroken back known⟩
  · intro fits
    have unbroken : ∀ s, ∀ x ∈ store.alerting s, '\n' ∉ x.toList := fun s x known => (fits s x known).1
    refine ext_known fun x s => ?_
    rw [Bool.eq_iff_iff, known_iff, known_iff, mem_reload unbroken]
    constructor
    · rintro ⟨y, known, cut⟩
      rw [Text.dropReturn_of_ne (fits s y known).2, String.toList_inj] at cut
      exact cut ▸ known
    · intro known
      exact ⟨x, known, Text.dropReturn_of_ne (fits s x known).2⟩

end Store
end EdgeAlert
