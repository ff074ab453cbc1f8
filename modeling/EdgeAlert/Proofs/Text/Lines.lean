import Mathlib.Data.List.TakeWhile
import EdgeAlert.Text.Blank
import EdgeAlert.Text.Lines

/-!
# Cutting and joining lines

What is cut off a sequence as a line holds no newline, and a stretch without a newline is cut off
whole. `lined_iff` says what the lines are without the cutting, `lines_append_of_ended` that an input of
ended lines is cut on its own, and `lines_flatMap` is the inverse of ending each of some pieces with a
newline, up to the carriage return that a piece may end in.
-/

namespace EdgeAlert.Text

variable {α : Type} [DecidableEq α] {newline carriage : α} {line rest cs : List α}

/-! ### Stretches -/

theorem completeLines_append (unbroken : newline ∉ line) :
    completeLines newline (line ++ newline :: rest) =
      (line :: (completeLines newline rest).1, (completeLines newline rest).2) := by
  induction line with
  | nil => simp [completeLines]
  | cons c cs ih =>
    have other : c ≠ newline := fun same => unbroken (same ▸ List.mem_cons_self)
    rw [List.cons_append, completeLines, ih fun member => unbroken (List.mem_cons_of_mem c member)]
    simp [other]

theorem completeLines_unbroken (newline : α) (cs : List α) :
    (∀ line ∈ (completeLines newline cs).1, newline ∉ line) ∧
      newline ∉ (completeLines newline cs).2 := by
  induction cs with
  | nil => simp [completeLines]
  | cons c cs ih =>
    rw [completeLines]
    generalize completeLines newline cs = cut at ih ⊢
    obtain ⟨done, left⟩ := cut
    obtain ⟨ended, kept⟩ := ih
    dsimp only at ended kept ⊢
    by_cases here : c = newline
    · rw [if_pos here]
      exact ⟨List.forall_mem_cons.mpr ⟨List.not_mem_nil, ended⟩, kept⟩
    · rw [if_neg here]
      have other : newline ≠ c := Ne.symm here
      cases done with
      | nil => simp [other, kept]
      | cons line more =>
        obtain ⟨first, others⟩ := List.forall_mem_cons.mp ended
        exact ⟨List.forall_mem_cons.mpr ⟨by simp [other, first], others⟩, kept⟩

/-! ### The return at the end -/

theorem mem_of_mem_dropReturn {c : α} (member : c ∈ dropReturn carriage line) : c ∈ line := by
  unfold dropReturn at member
  split at member
  · exact (List.dropLast_sublist line).mem member
  · exact member

theorem dropReturn_of_ne (other : line.getLast? ≠ some carriage) : dropReturn carriage line = line :=
  if_neg other

theorem dropReturn_concat : dropReturn carriage (line ++ [carriage]) = line := by
  simp [dropReturn]

theorem dropReturn_append {lead : List α} (other : lead.getLast? ≠ some carriage) :
    dropReturn carriage (lead ++ line) = lead ++ dropReturn carriage line := by
  rcases List.eq_nil_or_concat line with rfl | ⟨front, last, rfl⟩
  · rw [List.append_nil, dropReturn_of_ne other]
    simp [dropReturn]
  · by_cases here : last = carriage
    · rw [List.concat_eq_append, here, dropReturn_concat, ← List.append_assoc, dropReturn_concat]
    · rw [dropReturn_of_ne, dropReturn_of_ne] <;> simp [here]

/-! ### Lines -/

theorem notMem_of_mem_lines (member : line ∈ lines newline carriage cs) : newline ∉ line := by
  obtain ⟨done, left⟩ := completeLines_unbroken newline cs
  rcases List.mem_append.mp member with ended | last
  · obtain ⟨whole, cut, rfl⟩ := List.mem_map.mp ended
    exact fun inside => done whole cut (mem_of_mem_dropReturn inside)
  · split at last
    · cases last
    · rw [List.mem_singleton.mp last]
      exact left

theorem lines_append (unbroken : newline ∉ line) :
    lines newline carriage (line ++ newline :: rest) =
      dropReturn carriage line :: lines newline carriage rest := by
  unfold lines
  rw [completeLines_append unbroken]
  rfl

/-- Pieces without newlines, each ended by one, are the lines of the whole. -/
theorem lines_flatMap {pieces : List (List α)} (unbroken : ∀ piece ∈ pieces, newline ∉ piece) :
    lines newline carriage (pieces.flatMap fun piece => piece ++ [newline]) =
      pieces.map (dropReturn carriage) := by
  induction pieces with
  | nil => simp [lines, completeLines]
  | cons piece pieces ih =>
    obtain ⟨first, others⟩ := List.forall_mem_cons.mp unbroken
    rw [List.flatMap_cons, List.append_assoc, List.singleton_append, lines_append first, ih others,
      List.map_cons]

theorem completeLines_of_unbroken (unbroken : newline ∉ cs) :
    completeLines newline cs = ([], cs) := by
  induction cs with
  | nil => rfl
  | cons c cs ih =>
    have other : c ≠ newline := fun same => unbroken (same ▸ List.mem_cons_self)
    rw [completeLines, ih fun member => unbroken (List.mem_cons_of_mem c member)]
    simp [other]

theorem lines_of_unbroken (unbroken : newline ∉ cs) :
    lines newline carriage cs = if cs = [] then [] else [cs] := by
  unfold lines
  rw [completeLines_of_unbroken unbroken]
  rfl

theorem newline_induction (newline : α) {motive : List α → Prop} (left : ∀ line, newline ∉ line → motive line)
    (ended : ∀ line rest, newline ∉ line → motive rest → motive (line ++ newline :: rest))
    (cs : List α) : motive cs := by
  by_cases member : newline ∈ cs
  · obtain ⟨line, rest, split, unbroken⟩ := List.eq_append_cons_of_mem member
    have shorter : rest.length < cs.length := by
      rw [split, List.length_append, List.length_cons]
      omega
    rw [split]
    exact ended line rest unbroken (newline_induction newline left ended rest)
  · exact left cs member
termination_by cs.length

/-- A sequence and its lines: a newline ends a line, alone or after a carriage return, and what is left
after the last newline is a line if there is any. -/
inductive Lined (newline carriage : α) : List α → List (List α) → Prop where
  | nil : Lined newline carriage [] []
  | left {line : List α} (unbroken : newline ∉ line) (nonempty : line ≠ []) :
    Lined newline carriage line [line]
  | ended {line rest : List α} {others : List (List α)} (unbroken : newline ∉ line)
    (plain : line.getLast? ≠ some carriage) (after : Lined newline carriage rest others) :
    Lined newline carriage (line ++ newline :: rest) (line :: others)
  | returned {line rest : List α} {others : List (List α)} (unbroken : newline ∉ line)
    (after : Lined newline carriage rest others) :
    Lined newline carriage (line ++ carriage :: newline :: rest) (line :: others)

theorem lines_of_lined {found : List (List α)} (different : carriage ≠ newline)
    (lined : Lined newline carriage cs found) : found = lines newline carriage cs := by
  induction lined with
  | nil => rfl
  | left unbroken nonempty => rw [lines_of_unbroken unbroken, if_neg nonempty]
  | ended unbroken plain _ ih => rw [lines_append unbroken, dropReturn_of_ne plain, ih]
  | @returned line rest _ unbroken _ ih =>
    have whole : newline ∉ line ++ [carriage] := by simp [unbroken, different.symm]
    have split : line ++ carriage :: newline :: rest = (line ++ [carriage]) ++ newline :: rest := by simp
    rw [split, lines_append whole, dropReturn_concat, ih]

theorem lined_lines (cs : List α) : Lined newline carriage cs (lines newline carriage cs) := by
  induction cs using newline_induction newline with
  | left line unbroken =>
    rw [lines_of_unbroken unbroken]
    split
    · rename_i empty
      rw [empty]
      exact .nil
    · rename_i nonempty
      exact .left unbroken nonempty
  | ended line rest unbroken ih =>
    rw [lines_append unbroken]
    by_cases returned : line.getLast? = some carriage
    · obtain ⟨front, rfl⟩ := List.getLast?_eq_some_iff.mp returned
      rw [dropReturn_concat, List.append_assoc]
      exact .returned (fun member => unbroken (List.mem_append_left _ member)) ih
    · rw [dropReturn_of_ne returned]
      exact .ended unbroken returned ih

theorem lined_iff {found : List (List α)} (different : carriage ≠ newline) :
    Lined newline carriage cs found ↔ found = lines newline carriage cs :=
  ⟨lines_of_lined different, fun same => same ▸ lined_lines cs⟩

/-! ### Inputs of ended lines -/

def Ended {β : Type} (newline : β) (cs : List β) : Prop := cs = [] ∨ cs.getLast? = some newline

theorem Ended.of_append {β : Type} {newline : β} {front rest : List β}
    (ended : Ended newline (front ++ newline :: rest)) : Ended newline rest := by
  rcases List.eq_nil_or_concat rest with rfl | ⟨most, c, rfl⟩
  · exact Or.inl rfl
  · have split : front ++ newline :: most.concat c = (front ++ newline :: most) ++ [c] := by simp
    rw [Ended, split, List.getLast?_concat] at ended
    rw [Ended, List.concat_eq_append, List.getLast?_concat]
    exact Or.inr (ended.resolve_left (by simp))

theorem lines_append_of_ended (ended : Ended newline cs) :
    lines newline carriage (cs ++ rest) = lines newline carriage cs ++ lines newline carriage rest := by
  induction cs using newline_induction newline with
  | left line unbroken =>
    rcases ended with rfl | last
    · rfl
    · exact absurd (List.mem_of_getLast? last) unbroken
  | ended line after unbroken ih =>
    rw [List.append_assoc, List.cons_append, lines_append unbroken, lines_append unbroken,
      ih ended.of_append, List.cons_append]

/-! ### White space -/

theorem trim_of_ends {first last : Char} (left : isBlank first = false) (right : isBlank last = false)
    (cs : List Char) : trim (first :: (cs ++ [last])) = first :: (cs ++ [last]) := by
  have start : trimStart (first :: (cs ++ [last])) = first :: (cs ++ [last]) :=
    List.dropWhile_cons_of_neg (by rw [left]; exact Bool.false_ne_true)
  have reversed : (first :: (cs ++ [last])).reverse = last :: (first :: cs).reverse := by
    rw [← List.cons_append, List.reverse_concat]
  have kept : (last :: (first :: cs).reverse).dropWhile isBlank = last :: (first :: cs).reverse :=
    List.dropWhile_cons_of_neg (by rw [right]; exact Bool.false_ne_true)
  rw [trim, start, trimEnd, reversed, kept, ← reversed, List.reverse_reverse]

theorem trim_eq_nil_iff {cs : List Char} : trim cs = [] ↔ ∀ c ∈ cs, isBlank c := by
  have start : trimStart cs = [] ↔ ∀ c ∈ cs, isBlank c := List.dropWhile_eq_nil_iff
  rw [← start]
  unfold trim trimEnd
  rw [List.reverse_eq_nil_iff, List.dropWhile_eq_nil_iff]
  constructor
  · intro blank
    by_contra left
    have first := List.head_dropWhile_not isBlank left
    have same := blank ((trimStart cs).head left) (List.mem_reverse.mpr (List.head_mem left))
    exact Bool.false_ne_true (first.symm.trans same)
  · intro none
    simp [none]

end EdgeAlert.Text
