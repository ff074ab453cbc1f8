import Mathlib.Data.List.DropRight
import EdgeAlert.Proofs.Text.Cut

/-!
# Comma-separated fields

What the fields of a text are, without the cutting. `fielded_iff`: a text without a comma is a single
field, whatever it is; any other is its fields joined by commas, with perhaps more commas at the end, and
the last field is not empty.
-/

namespace EdgeAlert.Text

variable {separator : Char} {cs piece : List Char} {pieces found : List (List Char)}

theorem notMem_of_mem_cut (member : piece ∈ cut separator cs) : separator ∉ piece := by
  induction cs generalizing piece with
  | nil =>
    rw [List.mem_singleton.mp member]
    exact List.not_mem_nil
  | cons c cs ih =>
    rw [cut] at member
    split at member
    · rcases List.mem_cons.mp member with rfl | member
      · exact List.not_mem_nil
      · exact ih member
    · rename_i other
      cases after : cut separator cs with
      | nil => exact absurd after (cut_ne_nil separator cs)
      | cons next more =>
        rw [after] at member ih
        have first : separator ∉ c :: next := by
          rw [List.mem_cons, not_or]
          exact ⟨Ne.symm other, ih List.mem_cons_self⟩
        rcases List.mem_cons.mp member with rfl | member
        · exact first
        · exact ih (List.mem_cons_of_mem next member)

theorem cut_joined (nonempty : pieces ≠ []) (whole : ∀ piece ∈ pieces, separator ∉ piece) :
    cut separator ([separator].intercalate pieces) = pieces := by
  rw [cut_intercalate nonempty]
  have single : ∀ piece ∈ pieces, cut separator piece = [piece] :=
    fun piece member => cut_of_notMem (whole piece member)
  rw [List.flatMap_congr single, List.flatMap_singleton']

/-! ### Empty pieces at the end -/

theorem dropTrailingEmpty_concat : dropTrailingEmpty (pieces ++ [piece]) =
    if piece = [] then dropTrailingEmpty pieces else pieces ++ [piece] := by
  have dropped := List.rdropWhile_concat (p := List.isEmpty) (l := pieces) piece
  simp only [List.isEmpty_iff] at dropped
  exact dropped

theorem dropTrailingEmpty_self (kept : pieces.getLast? ≠ some []) : dropTrailingEmpty pieces = pieces := by
  rcases List.eq_nil_or_concat pieces with rfl | ⟨front, last, rfl⟩
  · rfl
  · rw [List.concat_eq_append] at kept ⊢
    rw [dropTrailingEmpty_concat, if_neg fun empty => kept (by rw [empty, List.getLast?_concat])]

theorem dropTrailingEmpty_append (count : Nat) :
    dropTrailingEmpty (pieces ++ List.replicate count []) = dropTrailingEmpty pieces := by
  induction count with
  | zero => rw [List.replicate_zero, List.append_nil]
  | succ count ih =>
    rw [List.replicate_succ', ← List.append_assoc, dropTrailingEmpty_concat, if_pos rfl, ih]

theorem dropTrailingEmpty_spec (pieces : List (List Char)) :
    (dropTrailingEmpty pieces).getLast? ≠ some [] ∧
      ∃ count, pieces = dropTrailingEmpty pieces ++ List.replicate count [] := by
  induction pieces using List.reverseRecOn with
  | nil => exact ⟨by decide, 0, rfl⟩
  | append_singleton front last ih =>
    rw [dropTrailingEmpty_concat]
    split
    · rename_i empty
      obtain ⟨kept, count, split⟩ := ih
      refine ⟨kept, count + 1, ?_⟩
      rw [List.replicate_succ', ← List.append_assoc, ← split, empty]
    · rename_i full
      exact ⟨by simp [full], 0, (List.append_nil _).symm⟩

/-! ### Fields -/

/-- A text and its fields. -/
inductive Fielded : List Char → List (List Char) → Prop where
  | single {cs : List Char} (whole : ',' ∉ cs) : Fielded cs [cs]
  | several {cs : List Char} {found : List (List Char)} (dropped : Nat) (commas : ',' ∈ cs)
    (joined : [','].intercalate (found ++ List.replicate dropped []) = cs)
    (whole : ∀ field ∈ found, ',' ∉ field) (kept : found.getLast? ≠ some []) : Fielded cs found

theorem fields_of_cut_eq (cutAs : cut ',' cs = pieces) (commas : ',' ∈ cs) :
    fields cs = dropTrailingEmpty pieces := by
  unfold fields
  split
  · rename_i piece single
    have member : piece ∈ cut ',' cs := by
      rw [single]
      exact List.mem_cons_self
    have joined := intercalate_cut ',' cs
    rw [single, List.intercalate_singleton] at joined
    exact absurd (joined ▸ commas) (notMem_of_mem_cut member)
  · rw [cutAs]

theorem fields_of_fielded (fielded : Fielded cs found) : fields cs = found := by
  cases fielded with
  | single whole =>
    unfold fields
    rw [cut_of_notMem whole]
  | several dropped commas joined whole kept =>
    have nonempty : found ++ List.replicate dropped [] ≠ [] := by
      intro none
      rw [none] at joined
      exact List.not_mem_nil (joined ▸ commas)
    have cutAs : cut ',' cs = found ++ List.replicate dropped [] := by
      rw [← joined]
      refine cut_joined nonempty fun piece member => ?_
      rcases List.mem_append.mp member with field | empty
      · exact whole piece field
      · rw [List.eq_of_mem_replicate empty]
        exact List.not_mem_nil
    rw [fields_of_cut_eq cutAs commas, dropTrailingEmpty_append, dropTrailingEmpty_self kept]

theorem fielded_fields (cs : List Char) : Fielded cs (fields cs) := by
  by_cases commas : ',' ∈ cs
  · rw [fields_of_cut_eq rfl commas]
    obtain ⟨kept, dropped, split⟩ := dropTrailingEmpty_spec (cut ',' cs)
    refine .several dropped commas ?_ (fun field member => ?_) kept
    · rw [← split, intercalate_cut]
    · have piece : field ∈ cut ',' cs := by
        rw [split]
        exact List.mem_append_left _ member
      exact notMem_of_mem_cut piece
  · rw [fields, cut_of_notMem commas]
    exact .single commas

/-- Every text has fields, and no others than those. -/
theorem fielded_iff : Fielded cs found ↔ fields cs = found :=
  ⟨fields_of_fielded, fun same => same ▸ fielded_fields cs⟩

theorem intercalate_concat (nonempty : pieces ≠ []) :
    [separator].intercalate (pieces ++ [piece]) = [separator].intercalate pieces ++ separator :: piece := by
  induction pieces with
  | nil => exact absurd rfl nonempty
  | cons first rest ih =>
    by_cases last : rest = []
    · subst last
      simp
    · rw [List.cons_append, List.intercalate_cons_of_ne_nil (by simp), List.intercalate_cons_of_ne_nil last,
        ih last, ← List.append_assoc]

theorem fielded_joined {parts : List (List Char)} (nonempty : parts ≠ []) (whole : ∀ part ∈ parts, ',' ∉ part)
    (full : ∀ part ∈ parts, part ≠ []) (dropped : Nat) :
    Fielded ([','].intercalate parts ++ List.replicate dropped ',') parts := by
  have joined : [','].intercalate (parts ++ List.replicate dropped []) =
      [','].intercalate parts ++ List.replicate dropped ',' := by
    induction dropped with
    | zero => simp
    | succ dropped ih =>
      have some : parts ++ List.replicate dropped [] ≠ [] := by simp [nonempty]
      rw [List.replicate_succ', ← List.append_assoc, intercalate_concat some, ih, List.replicate_succ',
        List.append_assoc]
  have kept : parts.getLast? ≠ some [] := by
    intro last
    exact full [] (List.mem_of_getLast? last) rfl
  by_cases commas : ',' ∈ [','].intercalate parts ++ List.replicate dropped ','
  · exact .several dropped commas joined whole kept
  · have pieces : ∀ piece ∈ parts ++ List.replicate dropped [], ',' ∉ piece := by
      intro piece member
      rcases List.mem_append.mp member with part | empty
      · exact whole piece part
      · rw [List.eq_of_mem_replicate empty]
        exact List.not_mem_nil
    have cutAs := cut_joined (by simp [nonempty]) pieces
    rw [joined, cut_of_notMem commas] at cutAs
    -- A single piece leaves no room for a second part or an empty field.
    obtain ⟨part, rest, rfl⟩ := List.exists_cons_of_ne_nil nonempty
    obtain ⟨same, none⟩ := List.cons_eq_cons.mp cutAs
    obtain ⟨rfl, -⟩ := List.append_eq_nil_iff.mp none.symm
    rw [same] at commas ⊢
    exact .single commas

example : fields "5,".toList = ["5".toList] ∧ fields ",5".toList = [[], "5".toList] ∧
    fields ",".toList = [] ∧ fields [] = [[]] := by decide

end EdgeAlert.Text
