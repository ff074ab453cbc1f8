import EdgeAlert.Proofs.Json.RoundTrip

/-!
# One line of text

No control character is left in the text of a value: strings escape theirs, and everything else is
written in letters, digits and signs. `write_visible` says so; in particular, the text of a value is one
line.
-/

namespace EdgeAlert.Json

def Visible (c : Char) : Prop := 0x20 ≤ c.toNat

instance (c : Char) : Decidable (Visible c) := inferInstanceAs (Decidable (0x20 ≤ c.toNat))

variable {c d : Char}

theorem hexDigit_visible : ∀ n < 16, Visible (hexDigit n) := by decide

theorem simpleEscape?_visible {e : Char} (simple : simpleEscape? e = some c) : Visible e := by
  unfold simpleEscape? at simple
  split at simple
  case h_9 => cases simple
  all_goals decide

theorem escape_visible (member : d ∈ escape c) : Visible d := by
  rcases escape_cases c with ⟨e, written, simple, -⟩ | ⟨control, -, written⟩ |
    ⟨-, -, visible, -, written⟩
  · simp only [written, List.mem_cons, List.not_mem_nil, or_false] at member
    rcases member with rfl | rfl
    · decide
    · exact simpleEscape?_visible simple
  · simp only [written, List.mem_cons, List.not_mem_nil, or_false] at member
    rcases member with rfl | rfl | rfl | rfl | rfl | rfl
    · decide
    · decide
    · decide
    · decide
    · exact hexDigit_visible _ (by omega)
    · exact hexDigit_visible _ (by omega)
  · rw [written] at member
    rw [List.mem_singleton.mp member]
    exact Nat.le_of_not_lt visible

theorem writeString_visible {s : String} (member : d ∈ writeString s) : Visible d := by
  rcases List.mem_cons.mp member with rfl | member
  · decide
  · rcases List.mem_append.mp member with inside | last
    · obtain ⟨c, -, written⟩ := List.mem_flatMap.mp inside
      exact escape_visible written
    · rw [List.mem_singleton.mp last]
      decide

/-! ### Numbers -/

theorem isDigit_visible (digit : Decimal.isDigit d = true) : Visible d := by
  have code := StartsNumber.code (.inr digit)
  exact Nat.le_trans (by decide) code.1

theorem NumberText.writeExponent_visible {exponent : Option Int}
    (member : d ∈ NumberText.writeExponent exponent) : Visible d := by
  cases exponent with
  | none => cases member
  | some e =>
    simp only [NumberText.writeExponent, List.mem_cons] at member
    rcases member with rfl | rfl | digit
    · decide
    · split <;> decide
    · exact isDigit_visible (List.all_eq_true.mp (Decimal.readNat_digits _).1 d digit)

theorem NumberText.write_visible {t : NumberText} (canonical : t.Canonical) (member : d ∈ t.write) :
    Visible d := by
  simp only [NumberText.write, List.mem_append] at member
  rcases member with sign | whole | fraction | exponent
  · split at sign
    · rw [List.mem_singleton.mp sign]
      decide
    · cases sign
  · exact isDigit_visible (List.all_eq_true.mp canonical.whole_digits d whole)
  · cases given : t.fraction with
    | none =>
      rw [given] at fraction
      cases fraction
    | some ds =>
      rw [given] at fraction
      rcases List.mem_cons.mp fraction with rfl | digit
      · decide
      · exact isDigit_visible (List.all_eq_true.mp (canonical.fraction ds given).2 d digit)
  · exact writeExponent_visible exponent

/-! ### Values -/

theorem visible_of_all {cs : List Char} (all : (cs.all fun c => decide (Visible c)) = true) :
    ∀ c ∈ cs, Visible c := fun c member => of_decide_eq_true (List.all_eq_true.mp all c member)

mutual

/-- The text of a value holds no control character. -/
theorem write_visible : (j : Json) → ∀ c ∈ j.write, Visible c
  | .null => visible_of_all (by decide)
  | .bool true => visible_of_all (by decide)
  | .bool false => visible_of_all (by decide)
  | .integer i => by
    intro c member
    rw [write, ← write_ofInt] at member
    exact NumberText.write_visible (canonical_ofInt i.1) member
  | .float negative m => by
    intro c member
    rw [write, writeBinary, ← write_ofDecimal] at member
    exact NumberText.write_visible (canonical_shortest negative m) member
  | .string s => fun c member => writeString_visible member
  | .array items => by
    intro c member
    rcases List.mem_cons.mp member with rfl | member
    · decide
    · exact writeItems_visible items c member
  | .object members => by
    intro c member
    rcases List.mem_cons.mp member with rfl | member
    · decide
    · exact writeMembers_visible members c member

theorem writeItems_visible : (items : List Json) → ∀ c ∈ writeItems items, Visible c
  | [] => visible_of_all (by decide)
  | [item] => by
    intro c member
    rcases List.mem_append.mp member with inside | last
    · exact write_visible item c inside
    · rw [List.mem_singleton.mp last]
      decide
  | item :: other :: items => by
    intro c member
    rcases List.mem_append.mp member with inside | member
    · exact write_visible item c inside
    · rcases List.mem_cons.mp member with rfl | others
      · decide
      · exact writeItems_visible (other :: items) c others

theorem writeMembers_visible : (members : List (String × Json)) → ∀ c ∈ writeMembers members, Visible c
  | [] => visible_of_all (by decide)
  | [(name, value)] => by
    intro c member
    simp only [writeMembers, List.mem_append, List.mem_cons, List.not_mem_nil, or_false] at member
    rcases member with (written | rfl | inside) | rfl
    · exact writeString_visible written
    · decide
    · exact write_visible value c inside
    · decide
  | (name, value) :: other :: members => by
    intro c member
    have text : writeMembers ((name, value) :: other :: members) =
        writeString name ++ ':' :: value.write ++ ',' :: writeMembers (other :: members) := rfl
    simp only [text, List.mem_append, List.mem_cons] at member
    rcases member with (written | rfl | inside) | rfl | others
    · exact writeString_visible written
    · decide
    · exact write_visible value c inside
    · decide
    · exact writeMembers_visible (other :: members) c others

end

end EdgeAlert.Json
