import EdgeAlert.Proofs.Json.Number
import EdgeAlert.Proofs.Json.Strings

/-!
# Written values

`tree j` is the grammatical tree of the text that is written for `j`. `readSyntax_toText` says that the
reader finds it, and `toJson?_tree` that it has a value again, unless `j` nests too deep: that is `j` but
for its doubles. The values that trees have at all are those that `Fits` describes.
-/

namespace EdgeAlert.Json

mutual

/-- The grammatical tree of a written value. -/
def tree : Json → Syntax
  | .null => .null
  | .bool b => .bool b
  | .integer i => .number (.ofInt i.1)
  | .float negative m => .number (.ofDecimal negative (m.shortest doubleLayout.tie))
  | .string s => .string (pieces s)
  | .array items => .array (itemTrees items)
  | .object members => .object (memberTrees members)

def itemTrees : List Json → List Syntax
  | [] => []
  | item :: rest => item.tree :: itemTrees rest

def memberTrees : List (String × Json) → List (List Piece × Syntax)
  | [] => []
  | (name, value) :: rest => (pieces name, value.tree) :: memberTrees rest

end

/-! ### The text of a value -/

variable {c : Char} {cs rest : List Char} {fuel : Nat}

def StartsNumber (c : Char) : Prop := c = '-' ∨ Decimal.isDigit c = true

theorem StartsNumber.code (start : StartsNumber c) : 45 ≤ c.toNat ∧ c.toNat ≤ 57 := by
  rcases start with rfl | digit
  · decide
  · rw [Decimal.isDigit, Bool.and_eq_true, decide_eq_true_eq, decide_eq_true_eq] at digit
    have zero : '0'.toNat ≤ c.toNat := digit.1
    have nine : c.toNat ≤ '9'.toNat := digit.2
    exact ⟨Nat.le_trans (by decide) zero, nine⟩

theorem StartsNumber.visible (start : StartsNumber c) : isSpace c = false := by
  have code := start.code
  refine Bool.eq_false_iff.mpr fun space => ?_
  simp only [isSpace, Bool.or_eq_true, decide_eq_true_eq] at space
  rcases space with ((rfl | rfl) | rfl) | rfl <;> exact absurd code (by decide)

theorem NumberText.write_head {t : NumberText} (canonical : t.Canonical) :
    ∃ c cs, t.write = c :: cs ∧ StartsNumber c := by
  unfold NumberText.write
  cases t.negative with
  | true => exact ⟨_, _, rfl, .inl rfl⟩
  | false =>
    obtain ⟨d, ds, first⟩ : ∃ d ds, t.whole = d :: ds := by
      rcases canonical.whole with single | ⟨d, ds, several, -⟩
      · exact ⟨_, _, single⟩
      · exact ⟨d, ds, several⟩
    have digits := canonical.whole_digits
    rw [first, List.all_cons, Bool.and_eq_true] at digits
    rw [first]
    exact ⟨_, _, rfl, .inr digits.1⟩

/-- The text of a value starts with neither white space nor a closing bracket. -/
theorem write_head (j : Json) : ∃ c cs, j.write = c :: cs ∧ isSpace c = false ∧ c ≠ ']' := by
  have number : ∀ {t : NumberText}, t.Canonical →
      ∃ c cs, t.write = c :: cs ∧ isSpace c = false ∧ c ≠ ']' := by
    intro t canonical
    obtain ⟨c, cs, first, start⟩ := NumberText.write_head canonical
    refine ⟨c, cs, first, start.visible, ?_⟩
    rintro rfl
    exact absurd start.code (by decide)
  cases j with
  | null => exact ⟨_, _, rfl, by decide, by decide⟩
  | bool b => cases b <;> exact ⟨_, _, rfl, by decide, by decide⟩
  | integer i =>
    obtain ⟨c, cs, first, others⟩ := number (canonical_ofInt i.1)
    exact ⟨c, cs, by rw [write, ← write_ofInt, first], others⟩
  | float negative m =>
    obtain ⟨c, cs, first, others⟩ := number (canonical_shortest negative m)
    exact ⟨c, cs, by rw [write, writeBinary, ← write_ofDecimal, first], others⟩
  | string s => exact ⟨_, _, rfl, by decide, by decide⟩
  | array items => exact ⟨_, _, rfl, by decide, by decide⟩
  | object members => exact ⟨_, _, rfl, by decide, by decide⟩

theorem writeItems_head (item : Json) (items : List Json) :
    ∃ c cs, writeItems (item :: items) = c :: cs ∧ isSpace c = false ∧ c ≠ ']' := by
  obtain ⟨c, cs, first, others⟩ := item.write_head
  cases items with
  | nil => exact ⟨c, cs ++ [']'], by rw [writeItems, first, List.cons_append], others⟩
  | cons other items =>
    exact ⟨c, cs ++ ',' :: writeItems (other :: items),
      by rw [writeItems, first, List.cons_append]; exact List.cons_ne_nil _ _, others⟩

theorem writeMembers_head (member : String × Json) (members : List (String × Json)) :
    ∃ cs, writeMembers (member :: members) = '"' :: cs := by
  cases members with
  | nil => exact ⟨_, rfl⟩
  | cons other members => exact ⟨_, rfl⟩

theorem flatten_members (members : List (String × Json)) :
    ((members.map fun (name, value) => writeString name ++ ':' :: value.write).intersperse [',']).flatten ++
      ['}'] = writeMembers members := by
  induction members with
  | nil => rfl
  | cons member members ih =>
    cases members with
    | nil => simp [writeMembers]
    | cons other members =>
      rw [List.map_cons] at ih ⊢
      rw [List.map_cons, List.intersperse_cons_cons, List.flatten_cons, List.flatten_cons,
        List.append_assoc, List.append_assoc [','], ih]
      rfl

theorem writeObject_write (members : List (String × Json)) :
    writeObject (members.map fun (name, value) => (name, value.write)) = (Json.object members).write := by
  rw [writeObject, List.map_map, write, ← flatten_members]
  rfl

/-! ### Reading a written value -/

theorem skipSpace_cons (visible : isSpace c = false) (cs : List Char) : skipSpace (c :: cs) = c :: cs := by
  rw [skipSpace, List.dropWhile_cons_of_neg (by rw [visible]; exact Bool.false_ne_true)]

theorem readValue_number (start : StartsNumber c) :
    readValue (fuel + 1) (c :: cs) = (readNumber (c :: cs)).map fun read => (.number read.1, read.2) := by
  have code := start.code
  rw [readValue, skipSpace_cons start.visible]
  split
  case h_7 => rfl
  all_goals
    rename_i same
    obtain ⟨rfl, -⟩ := List.cons.inj same
    exact absurd code (by decide)

theorem readValue_items (visible : isSpace c = false) (opening : c ≠ ']') :
    readValue (fuel + 1) ('[' :: c :: cs) =
      (readItems fuel (c :: cs)).map fun read => (.array read.1, read.2) := by
  rw [readValue, skipSpace_cons (by decide)]
  simp only [skipSpace_cons visible]
  split
  · rename_i same
    exact absurd (List.cons.inj same).1 opening
  · rfl

theorem readValue_members (cs : List Char) :
    readValue (fuel + 1) ('{' :: '"' :: cs) =
      (readMembers fuel ('"' :: cs)).map fun read => (.object read.1, read.2) := by
  have quote : skipSpace ('"' :: cs) = '"' :: cs := skipSpace_cons (by decide) cs
  rw [readValue, skipSpace_cons (by decide)]
  simp only [quote]
  rfl

theorem readMembers_last {more : List Char} {value : Syntax} (name : String)
    (found : readValue fuel more = some (value, '}' :: rest)) :
    readMembers (fuel + 1) (writeString name ++ ':' :: more) = some ([(pieces name, value)], rest) := by
  obtain ⟨text, read⟩ := readPieces_write name (':' :: more)
  have colon : skipSpace (':' :: more) = ':' :: more := skipSpace_cons (by decide) more
  have brace : skipSpace ('}' :: rest) = '}' :: rest := skipSpace_cons (by decide) rest
  rw [text, readMembers, skipSpace_cons (by decide)]
  simp only [read, colon, found, brace]

theorem readMembers_comma {more after : List Char} {value : Syntax} {members : List (List Piece × Syntax)}
    (name : String) (found : readValue fuel more = some (value, ',' :: after))
    (others : readMembers fuel after = some (members, rest)) :
    readMembers (fuel + 1) (writeString name ++ ':' :: more) =
      some ((pieces name, value) :: members, rest) := by
  obtain ⟨text, read⟩ := readPieces_write name (':' :: more)
  have colon : skipSpace (':' :: more) = ':' :: more := skipSpace_cons (by decide) more
  have comma : skipSpace (',' :: after) = ',' :: after := skipSpace_cons (by decide) after
  rw [text, readMembers, skipSpace_cons (by decide)]
  simp only [read, colon, found, comma, others, Option.map_some]

theorem stopsNumber_cons
    (stops : Decimal.isDigit c = false ∧ c ≠ '.' ∧ c ≠ 'e' ∧ c ≠ 'E') (cs : List Char) :
    StopsNumber (c :: cs) := by
  intro d first
  obtain rfl := Option.some.inj first
  exact stops

theorem length_write_pos (j : Json) : 0 < j.write.length := by
  obtain ⟨c, cs, first, -⟩ := j.write_head
  rw [first]
  exact Nat.succ_pos _

theorem readValue_written {t : NumberText} (canonical : t.Canonical) (stops : StopsNumber rest) :
    readValue (fuel + 1) (t.write ++ rest) = some (.number t, rest) := by
  have read := readNumber_write canonical stops
  obtain ⟨c, cs, first, start⟩ := NumberText.write_head canonical
  rw [first, List.cons_append] at read ⊢
  rw [readValue_number start, read]
  rfl

mutual

/-- The reader goes down by one in `fuel` with each bracket, comma and colon of the written value. -/
theorem readValue_write {fuel : Nat} {rest : List Char} :
    (j : Json) → j.write.length ≤ fuel + 1 → StopsNumber rest →
      readValue (fuel + 1) (j.write ++ rest) = some (j.tree, rest)
  | .null, _, _ => rfl
  | .bool true, _, _ => rfl
  | .bool false, _, _ => rfl
  | .integer i, _, stops => by
    rw [write, ← write_ofInt, readValue_written (canonical_ofInt i.1) stops, tree]
  | .float negative m, _, stops => by
    rw [write, writeBinary, ← write_ofDecimal, readValue_written (canonical_shortest negative m) stops, tree]
  | .string s, _, _ => by
    obtain ⟨text, read⟩ := readPieces_write s rest
    rw [write, text, readValue, skipSpace_cons (by decide)]
    simp only [read, tree, Option.map_some]
  | .array [], _, _ => rfl
  | .array (item :: items), enough, _ => by
    obtain ⟨c, cs, first, visible, opening⟩ := writeItems_head item items
    have read : readItems fuel (writeItems (item :: items) ++ rest) =
        some (itemTrees (item :: items), rest) :=
      readItems_write item items (by rw [write, List.length_cons] at enough; omega)
    rw [write, List.cons_append]
    -- The first item keeps the array from looking empty.
    rw [first, List.cons_append] at read ⊢
    rw [readValue_items visible opening, read]
    rfl
  | .object [], _, _ => rfl
  | .object (member :: members), enough, _ => by
    have read : readMembers fuel (writeMembers (member :: members) ++ rest) =
        some (memberTrees (member :: members), rest) :=
      readMembers_write member members (by rw [write, List.length_cons] at enough; omega)
    obtain ⟨cs, first⟩ := writeMembers_head member members
    rw [write, List.cons_append]
    rw [first, List.cons_append] at read ⊢
    rw [readValue_members, read]
    rfl

theorem readItems_write {fuel : Nat} {rest : List Char} :
    (item : Json) → (items : List Json) → (writeItems (item :: items)).length ≤ fuel →
      readItems fuel (writeItems (item :: items) ++ rest) = some (itemTrees (item :: items), rest)
  | item, [], enough => by
    have pos := item.length_write_pos
    rw [writeItems, List.length_append, List.length_singleton] at enough
    obtain ⟨fuel, rfl⟩ : ∃ k, fuel = k + 2 := ⟨fuel - 2, by omega⟩
    have bracket := stopsNumber_cons (c := ']') (by decide) rest
    rw [writeItems, List.append_assoc, List.singleton_append, readItems,
      readValue_write item (by omega) bracket]
    rfl
  | item, other :: items, enough => by
    have pos := item.length_write_pos
    have text : writeItems (item :: other :: items) =
        item.write ++ ',' :: writeItems (other :: items) := rfl
    rw [text, List.length_append, List.length_cons] at enough
    obtain ⟨fuel, rfl⟩ : ∃ k, fuel = k + 2 := ⟨fuel - 2, by omega⟩
    have comma := stopsNumber_cons (c := ',') (by decide) (writeItems (other :: items) ++ rest)
    have others : readItems (fuel + 1) (writeItems (other :: items) ++ rest) =
        some (itemTrees (other :: items), rest) := readItems_write other items (by omega)
    rw [text, List.append_assoc, List.cons_append, readItems,
      readValue_write item (by omega) comma]
    simp only [skipSpace_cons (c := ',') (by decide), others]
    rfl

theorem readMembers_write {fuel : Nat} {rest : List Char} :
    (member : String × Json) → (members : List (String × Json)) →
      (writeMembers (member :: members)).length ≤ fuel →
        readMembers fuel (writeMembers (member :: members) ++ rest) =
          some (memberTrees (member :: members), rest)
  | (name, value), [], enough => by
    have pos := value.length_write_pos
    have text : writeMembers [(name, value)] = writeString name ++ ':' :: value.write ++ ['}'] := rfl
    rw [text, List.length_append, List.length_append, List.length_cons, List.length_singleton] at enough
    obtain ⟨fuel, rfl⟩ : ∃ k, fuel = k + 2 := ⟨fuel - 2, by omega⟩
    have brace := stopsNumber_cons (c := '}') (by decide) rest
    rw [text, List.append_assoc, List.append_assoc, List.cons_append, List.singleton_append,
      readMembers_last name (readValue_write value (by omega) brace)]
    rfl
  | (name, value), other :: members, enough => by
    have pos := value.length_write_pos
    have text : writeMembers ((name, value) :: other :: members) =
        writeString name ++ ':' :: value.write ++ ',' :: writeMembers (other :: members) := rfl
    rw [text, List.length_append, List.length_append, List.length_cons, List.length_cons] at enough
    obtain ⟨fuel, rfl⟩ : ∃ k, fuel = k + 2 := ⟨fuel - 2, by omega⟩
    have comma := stopsNumber_cons (c := ',') (by decide) (writeMembers (other :: members) ++ rest)
    have others : readMembers (fuel + 1) (writeMembers (other :: members) ++ rest) =
        some (memberTrees (other :: members), rest) := readMembers_write other members (by omega)
    rw [text, List.append_assoc, List.append_assoc, List.cons_append, List.cons_append,
      readMembers_comma name (readValue_write value (by omega) comma) others]
    rfl

end

/-- The reader finds the tree of a written value. -/
theorem readSyntax_toText (j : Json) : readSyntax j.toText = some j.tree := by
  have read : readValue (2 * j.write.length + 2) (j.write ++ []) = some (j.tree, []) :=
    readValue_write j (by omega) fun _ none => by cases none
  rw [List.append_nil] at read
  rw [readSyntax, toText, String.toList_ofList, readFront, read]
  rfl

theorem slots?_memberTrees {names : List String} {slots : List (Option Syntax)} {name : String}
    {value : Json} (members : List (String × Json)) :
    Syntax.slots? names slots (memberTrees ((name, value) :: members)) =
      match names.idxOf? name with
      | none => Syntax.slots? names slots (memberTrees members)
      | some i =>
        if (slots[i]?.join).isSome then none
        else Syntax.slots? names (slots.set i (some value.tree)) (memberTrees members) := by
  rw [memberTrees, Syntax.slots?, stringOf?_pieces]
  rfl

/-! ### The value of the tree -/

variable {depth : Nat} {j : Json}

/-- A value whose arrays and objects nest at most `depth` deep and whose objects repeat no name. -/
inductive Fits : Nat → Json → Prop where
  | null {d : Nat} : Fits d .null
  | bool {d : Nat} (b : Bool) : Fits d (.bool b)
  | integer {d : Nat} (i : JsonInteger) : Fits d (.integer i)
  | float {d : Nat} (negative : Bool) (m : Magnitude .double) : Fits d (.float negative m)
  | string {d : Nat} (s : String) : Fits d (.string s)
  | array {d : Nat} {items : List Json} (all : ∀ item ∈ items, Fits d item) : Fits (d + 1) (.array items)
  | object {d : Nat} {members : List (String × Json)} (names : (members.map Prod.fst).Nodup)
      (all : ∀ member ∈ members, Fits d member.2) : Fits (d + 1) (.object members)

theorem Fits.mono {deeper : Nat} (fits : Fits depth j) (le : depth ≤ deeper) : Fits deeper j := by
  induction fits generalizing deeper with
  | null => exact .null
  | bool b => exact .bool b
  | integer i => exact .integer i
  | float negative m => exact .float negative m
  | string s => exact .string s
  | array all ih =>
    obtain ⟨deeper, rfl⟩ := Nat.exists_eq_add_of_lt le
    exact .array fun item member => ih item member (by omega)
  | object names all ih =>
    obtain ⟨deeper, rfl⟩ := Nat.exists_eq_add_of_lt le
    exact .object names fun member inside => ih member inside (by omega)

mutual

/-- What is read when the value has been written. A double may have moved to a neighbour. -/
def readBack : Json → Json
  | .null => .null
  | .bool b => .bool b
  | .integer i => .integer i
  | .float negative m =>
    .float negative ((NumberText.ofDecimal negative (m.shortest doubleLayout.tie)).magnitude?.getD m)
  | .string s => .string s
  | .array items => .array (readBackItems items)
  | .object members => .object (readBackMembers members)

def readBackItems : List Json → List Json
  | [] => []
  | item :: rest => item.readBack :: readBackItems rest

def readBackMembers : List (String × Json) → List (String × Json)
  | [] => []
  | (name, value) :: rest => (name, value.readBack) :: readBackMembers rest

end

theorem itemsToJson?_trees {items : List Json}
    (all : ∀ item ∈ items, item.tree.toJson? depth = some item.readBack) :
    Syntax.itemsToJson? depth (itemTrees items) = some (readBackItems items) := by
  induction items with
  | nil => rfl
  | cons item items ih =>
    obtain ⟨first, others⟩ := List.forall_mem_cons.mp all
    rw [itemTrees, Syntax.itemsToJson?, first, ih others]
    rfl

theorem membersToJson?_trees {members seen : List (String × Json)}
    (all : ∀ member ∈ members, member.2.tree.toJson? depth = some member.2.readBack)
    (names : (seen.map Prod.fst ++ members.map Prod.fst).Nodup) :
    Syntax.membersToJson? depth (memberTrees members) seen = some (seen ++ readBackMembers members) := by
  induction members generalizing seen with
  | nil => rw [memberTrees, Syntax.membersToJson?, readBackMembers, List.append_nil]
  | cons member members ih =>
    obtain ⟨name, value⟩ := member
    obtain ⟨first, others⟩ := List.forall_mem_cons.mp all
    have new : name ∉ seen.map Prod.fst := by
      intro member
      exact (List.nodup_append.mp names).2.2 name member name List.mem_cons_self rfl
    have moved : ((seen ++ [(name, value.readBack)]).map Prod.fst ++ members.map Prod.fst).Nodup := by
      rw [List.map_append, List.append_assoc]
      exact names
    rw [memberTrees, Syntax.membersToJson?, stringOf?_pieces, first]
    simp only [Option.bind_eq_bind, Option.bind_some, putEntry_of_notMem new, ih others moved]
    rw [List.append_assoc, List.singleton_append, readBackMembers]

/-- The tree of a value that fits has the value that is read back. -/
theorem toJson?_tree (fits : Fits depth j) : j.tree.toJson? depth = some j.readBack := by
  induction fits with
  | null => rfl
  | bool b => rfl
  | integer i =>
    rw [tree, Syntax.toJson?, toJson?_ofInt]
    rfl
  | float negative m =>
    obtain ⟨read, found⟩ := Option.isSome_iff_exists.mp (isSome_magnitude?_shortest negative m)
    rw [tree, Syntax.toJson?, toJson?_ofDecimal, NumberText.toDouble?, negative_ofDecimal, readBack, found]
    rfl
  | string s =>
    rw [tree, Syntax.toJson?, stringOf?_pieces]
    rfl
  | array all ih =>
    rw [tree, Syntax.toJson?, itemsToJson?_trees ih]
    rfl
  | @object depth members names all ih =>
    have read : Syntax.membersToJson? depth (memberTrees members) [] = some (readBackMembers members) :=
      membersToJson?_trees ih names
    rw [tree, Syntax.toJson?, read]
    rfl

theorem read_toText (fits : Fits Syntax.depthLimit j) : read j.toText = some j.readBack := by
  rw [read, readSyntax_toText, Option.bind_some, toJson?_tree fits]

example : (read "9.838723221719485").map toText = some "9.838723221719484" := by decide +kernel

theorem fits_double {t : NumberText} (value : t.toDouble? = some j) : Fits depth j := by
  obtain ⟨m, -, rfl⟩ := Option.map_eq_some_iff.mp value
  exact .float t.negative m

theorem fits_number {t : NumberText} (value : t.toJson? = some j) : Fits depth j := by
  have signed : ∀ i : Int, (ofInt? i).or t.toDouble? = some j → Fits depth j := by
    intro i found
    rw [ofInt?] at found
    split at found
    · obtain rfl := Option.some.inj found
      exact .integer _
    · exact fits_double found
  rw [NumberText.toJson?] at value
  split at value
  · dsimp only at value
    split at value
    · exact fits_double value
    · exact signed _ value
  · exact fits_double value

theorem fits_items {trees : List Syntax} {items : List Json}
    (each : ∀ {tree : Syntax} {j : Json}, tree.toJson? depth = some j → Fits depth j)
    (value : Syntax.itemsToJson? depth trees = some items) : ∀ item ∈ items, Fits depth item := by
  induction trees generalizing items with
  | nil =>
    rw [Syntax.itemsToJson?, Option.some.injEq] at value
    subst value
    exact fun item member => absurd member List.not_mem_nil
  | cons tree trees ih =>
    rw [Syntax.itemsToJson?] at value
    obtain ⟨first, found, value⟩ := Option.bind_eq_some_iff.mp value
    obtain ⟨others, rest, value⟩ := Option.bind_eq_some_iff.mp value
    obtain rfl := Option.some.inj value
    exact List.forall_mem_cons.mpr ⟨each found, ih rest⟩

theorem fits_members {trees : List (List Piece × Syntax)} {seen members : List (String × Json)}
    (each : ∀ {tree : Syntax} {j : Json}, tree.toJson? depth = some j → Fits depth j)
    (names : (seen.map Prod.fst).Nodup) (all : ∀ member ∈ seen, Fits depth member.2)
    (value : Syntax.membersToJson? depth trees seen = some members) :
    (members.map Prod.fst).Nodup ∧ ∀ member ∈ members, Fits depth member.2 := by
  induction trees generalizing seen with
  | nil =>
    rw [Syntax.membersToJson?, Option.some.injEq] at value
    subst value
    exact ⟨names, all⟩
  | cons tree trees ih =>
    rw [Syntax.membersToJson?] at value
    obtain ⟨name, -, value⟩ := Option.bind_eq_some_iff.mp value
    obtain ⟨first, found, value⟩ := Option.bind_eq_some_iff.mp value
    refine ih (nodup_putEntry names) (fun member put => ?_) value
    rcases mem_of_mem_putEntry put with rfl | old
    · exact each found
    · exact all member old

/-- Whatever value a tree has fits. -/
theorem fits_of_toJson? {tree : Syntax} (value : tree.toJson? depth = some j) : Fits depth j := by
  induction depth using Nat.strongRecOn generalizing tree j with
  | ind depth ih =>
    cases tree with
    | null => exact Option.some.inj value ▸ .null
    | bool b => exact Option.some.inj value ▸ .bool b
    | number t => exact fits_number value
    | string s =>
      obtain ⟨s, -, rfl⟩ := Option.map_eq_some_iff.mp value
      exact .string s
    | array trees =>
      cases depth with
      | zero => cases value
      | succ depth =>
        obtain ⟨items, found, rfl⟩ := Option.map_eq_some_iff.mp value
        exact .array (fits_items (ih depth (Nat.lt_succ_self depth)) found)
    | object trees =>
      cases depth with
      | zero => cases value
      | succ depth =>
        obtain ⟨members, found, rfl⟩ := Option.map_eq_some_iff.mp value
        have none : (([] : List (String × Json)).map Prod.fst).Nodup := List.nodup_nil
        obtain ⟨names, all⟩ := fits_members (ih depth (Nat.lt_succ_self depth)) none
          (fun _ member => absurd member List.not_mem_nil) found
        exact .object names all

end EdgeAlert.Json
