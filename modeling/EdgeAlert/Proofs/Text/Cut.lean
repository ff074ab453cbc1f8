import EdgeAlert.Text.Fields

/-!
# Cutting at a separator

A text without the separator is a single piece, and joined texts are cut into the pieces of each of
them. Cutting loses nothing: the pieces joined again are the text.
-/

namespace EdgeAlert.Text

variable {separator : Char} {cs ds : List Char}

theorem cut_append : cut separator (cs ++ separator :: ds) = cut separator cs ++ cut separator ds := by
  induction cs with
  | nil => simp [cut]
  | cons c cs ih =>
    rw [List.cons_append, cut, ih, cut]
    split
    · rfl
    · cases pieces : cut separator cs with
      | nil => exact absurd pieces (cut_ne_nil separator cs)
      | cons piece pieces => rfl

theorem cut_of_notMem (absent : separator ∉ cs) : cut separator cs = [cs] := by
  induction cs with
  | nil => rfl
  | cons c cs ih =>
    rw [List.mem_cons, not_or] at absent
    rw [cut, if_neg (Ne.symm absent.1), ih absent.2]

theorem cut_intercalate {parts : List (List Char)} (nonempty : parts ≠ []) :
    cut separator ([separator].intercalate parts) = parts.flatMap (cut separator) := by
  induction parts with
  | nil => exact absurd rfl nonempty
  | cons part parts ih =>
    cases parts with
    | nil => rw [List.intercalate_singleton, List.flatMap_cons, List.flatMap_nil, List.append_nil]
    | cons next more =>
      rw [List.intercalate_cons_cons, List.append_assoc, List.singleton_append, cut_append,
        ih (List.cons_ne_nil _ _)]
      exact List.flatMap_cons.symm

theorem intercalate_cut (separator : Char) (cs : List Char) :
    [separator].intercalate (cut separator cs) = cs := by
  induction cs with
  | nil => rw [cut, List.intercalate_singleton]
  | cons c cs ih =>
    rw [cut]
    split
    · rename_i here
      rw [List.intercalate_cons_of_ne_nil (cut_ne_nil separator cs), ih, here]
      rfl
    · split
      · rename_i none
        exact absurd none (cut_ne_nil separator cs)
      · rename_i piece pieces cut
        rw [cut] at ih
        cases pieces with
        | nil =>
          rw [List.intercalate_singleton] at ih ⊢
          rw [ih]
        | cons next more =>
          rw [List.intercalate_cons_cons] at ih ⊢
          rw [List.cons_append, List.cons_append, ih]

theorem cut_inj : cut separator cs = cut separator ds ↔ cs = ds := by
  constructor
  · intro same
    rw [← intercalate_cut separator cs, same, intercalate_cut]
  · rintro rfl
    rfl

end EdgeAlert.Text
