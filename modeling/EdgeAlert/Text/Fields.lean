/-!
# Cutting texts

Taking a lead off the front of a text and cutting a text at a separator.
-/

namespace EdgeAlert.Text

def after? : (lead cs : List Char) → Option (List Char)
  | [], cs => some cs
  | _ :: _, [] => none
  | l :: lead, c :: cs => if l = c then after? lead cs else none

theorem after?_eq_some_iff {lead cs rest : List Char} :
    after? lead cs = some rest ↔ cs = lead ++ rest := by
  induction lead generalizing cs with
  | nil => simp [after?]
  | cons l lead ih =>
    cases cs with
    | nil => simp [after?]
    | cons c cs =>
      by_cases h : l = c
      · simp [after?, h, ih]
      · have : ¬ c = l := fun e => h e.symm
        simp [after?, h, this]

def cut (separator : Char) : List Char → List (List Char)
  | [] => [[]]
  | c :: cs =>
    if c = separator then [] :: cut separator cs
    else match cut separator cs with
      | [] => [[c]]
      | piece :: pieces => (c :: piece) :: pieces

theorem cut_ne_nil (separator : Char) (cs : List Char) : cut separator cs ≠ [] := by
  cases cs with
  | nil => simp [cut]
  | cons c cs =>
    unfold cut
    split
    · simp
    · split <;> simp

def dropTrailingEmpty (pieces : List (List Char)) : List (List Char) :=
  (pieces.reverse.dropWhile List.isEmpty).reverse

/-- The comma-separated fields of a text. Empty fields at the end do not count, unless the text has
no comma at all. -/
def fields (cs : List Char) : List (List Char) :=
  match cut ',' cs with
  | [piece] => [piece]
  | pieces => dropTrailingEmpty pieces

end EdgeAlert.Text
