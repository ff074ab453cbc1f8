import Mathlib.Data.Finset.Card
import Mathlib.Data.List.Forall2
import EdgeAlert.Event.Codec

/-!
# Properties in insertion order

Properties are made by inserts into empty ones: one at a time, while an event is built, or as the
members of an object that is read. In each of these ways the names stand in the order in which they
were first inserted and the last value of a name counts: `insertion_ordered`.
-/

namespace EdgeAlert

/-! ### Lists of entries -/

section Entries

variable {α : Type} {name : String} {value : α} {entries : List (String × α)}

theorem valueOf?_append (name : String) (first second : List (String × α)) :
    valueOf? name (first ++ second) = (valueOf? name first).or (valueOf? name second) := by
  induction first with
  | nil => rfl
  | cons e rest ih =>
    rw [List.cons_append, valueOf?, valueOf?, ih]
    split <;> rfl

theorem valueOf?_eq_none_iff : valueOf? name entries = none ↔ name ∉ entries.map Prod.fst := by
  induction entries with
  | nil => exact iff_of_true rfl List.not_mem_nil
  | cons e rest ih =>
    rw [valueOf?, List.map_cons, List.mem_cons, not_or, ← ih]
    split
    · rename_i same
      exact iff_of_false (Option.some_ne_none _) fun other => other.1 same.symm
    · rename_i other
      exact (and_iff_right (Ne.symm other)).symm

theorem valueOf?_eq_some_iff_first : valueOf? name entries = some value ↔
    ∃ before after, entries = before ++ (name, value) :: after ∧ name ∉ before.map Prod.fst := by
  constructor
  · intro found
    induction entries with
    | nil => cases found
    | cons e rest ih =>
      obtain ⟨n, v⟩ := e
      rw [valueOf?] at found
      split at found
      · rename_i same
        obtain rfl := Option.some.inj found
        exact ⟨[], rest, by rw [same, List.nil_append], List.not_mem_nil⟩
      · rename_i other
        obtain ⟨before, after, rfl, absent⟩ := ih found
        refine ⟨(n, v) :: before, after, rfl, ?_⟩
        rw [List.map_cons, List.mem_cons, not_or]
        exact ⟨Ne.symm other, absent⟩
  · rintro ⟨before, after, rfl, absent⟩
    rw [valueOf?_append, valueOf?_eq_none_iff.mpr absent, Option.none_or, valueOf?, if_pos rfl]

theorem valueOf?_reverse_eq_some_iff : valueOf? name entries.reverse = some value ↔
    ∃ before after, entries = before ++ (name, value) :: after ∧ name ∉ after.map Prod.fst := by
  rw [valueOf?_eq_some_iff_first]
  constructor
  · rintro ⟨before, after, split, absent⟩
    refine ⟨after.reverse, before.reverse, ?_, by simpa using absent⟩
    rw [List.reverse_eq_iff.mp split]
    simp
  · rintro ⟨before, after, rfl, absent⟩
    exact ⟨after.reverse, before.reverse, by simp, by simpa using absent⟩

theorem valueOf?_reverse (distinct : (entries.map Prod.fst).Nodup) :
    valueOf? name entries.reverse = valueOf? name entries := by
  have reversed : (entries.reverse.map Prod.fst).Nodup := by
    rw [List.map_reverse, List.nodup_reverse]
    exact distinct
  ext value
  rw [valueOf?_eq_some_iff reversed, valueOf?_eq_some_iff distinct, List.mem_reverse]

end Entries

/-! ### Maps made by inserts -/

namespace OrderedMap

variable {α : Type} {m : OrderedMap α} {entries : List (String × α)}

theorem nodup_names (m : OrderedMap α) : m.names.Nodup := m.nodup

theorem length_names (m : OrderedMap α) : m.names.length = m.size := List.length_map _

theorem get?_eq_none_iff {name : String} : m.get? name = none ↔ name ∉ m.names := valueOf?_eq_none_iff

theorem get?_insertAll (m : OrderedMap α) (entries : List (String × α)) (name : String) :
    (m.insertAll entries).get? name = (valueOf? name entries.reverse).or (m.get? name) := by
  induction entries generalizing m with
  | nil => rfl
  | cons e rest ih =>
    rw [insertAll, List.foldl_cons, ← insertAll, ih, get?_insert, List.reverse_cons, valueOf?_append,
      Option.or_assoc]
    congr 1
    by_cases same : e.1 = name
    · rw [valueOf?, if_pos same, if_pos same.symm]
      rfl
    · rw [valueOf?, if_neg same, if_neg (Ne.symm same)]
      rfl

/-- Names that are there keep their places, and the others come after them as they are inserted. -/
theorem names_insertAll (m : OrderedMap α) (distinct : (entries.map Prod.fst).Nodup) :
    (m.insertAll entries).names = m.names ++ (entries.map Prod.fst).filter (· ∉ m.names) := by
  induction entries generalizing m with
  | nil => exact (List.append_nil _).symm
  | cons e rest ih =>
    obtain ⟨once, others⟩ := List.nodup_cons.mp distinct
    rw [insertAll, List.foldl_cons, ← insertAll, ih _ others, names_insert, List.map_cons]
    by_cases old : e.1 ∈ m.names
    · rw [if_pos old, List.filter_cons_of_neg (by simpa using old)]
    · have kept : (rest.map Prod.fst).filter (· ∉ m.names ++ [e.1]) =
          (rest.map Prod.fst).filter (· ∉ m.names) := by
        apply List.filter_congr
        intro name member
        have other : name ≠ e.1 := fun same => once (same ▸ member)
        simp [other]
      rw [if_neg old, kept, List.filter_cons_of_pos (by simpa using old), List.append_assoc,
        List.singleton_append]

theorem ofList_concat (entries : List (String × α)) (name : String) (value : α) :
    ofList (entries ++ [(name, value)]) = (ofList entries).insert name value := List.foldl_concat _ _ _ _

theorem get?_ofList (entries : List (String × α)) (name : String) :
    (ofList entries).get? name = valueOf? name entries.reverse := by
  rw [ofList, get?_insertAll, get?_empty, Option.or_none]

theorem mem_names_ofList {name : String} : name ∈ (ofList entries).names ↔ name ∈ entries.map Prod.fst := by
  rw [← not_iff_not, ← get?_eq_none_iff, get?_ofList, valueOf?_eq_none_iff, List.map_reverse,
    List.mem_reverse]

theorem count_names_ofList (entries : List (String × α)) (name : String) :
    (ofList entries).names.count name = if name ∈ entries.map Prod.fst then 1 else 0 := by
  rw [(nodup_names _).count]
  exact if_congr mem_names_ofList rfl rfl

theorem size_ofList (entries : List (String × α)) :
    (ofList entries).size = (entries.map Prod.fst).toFinset.card := by
  have same : (ofList entries).names.toFinset = (entries.map Prod.fst).toFinset := by
    ext name
    rw [List.mem_toFinset, List.mem_toFinset, mem_names_ofList]
  rw [← length_names, ← same, List.toFinset_card_of_nodup (nodup_names _)]

theorem names_ofList_ordered (entries : List (String × α)) :
    (ofList entries).names.Pairwise fun a b =>
      (entries.map Prod.fst).idxOf a < (entries.map Prod.fst).idxOf b := by
  induction entries using List.reverseRecOn with
  | nil => exact List.Pairwise.nil
  | append_singleton entries e ih =>
    -- A later insert does not change where an earlier name was first inserted.
    have kept : (ofList entries).names.Pairwise fun a b =>
        ((entries ++ [e]).map Prod.fst).idxOf a < ((entries ++ [e]).map Prod.fst).idxOf b := by
      apply ih.imp_of_mem
      intro a b a_in b_in less
      rw [List.map_append, List.idxOf_append_of_mem (mem_names_ofList.mp a_in),
        List.idxOf_append_of_mem (mem_names_ofList.mp b_in)]
      exact less
    rw [ofList_concat, names_insert]
    split
    · exact kept
    · rename_i new
      apply List.pairwise_append.mpr
      refine ⟨kept, List.pairwise_singleton _ _, ?_⟩
      intro a old b last
      obtain rfl := List.mem_singleton.mp last
      have before := mem_names_ofList.mp old
      rw [List.map_append, List.idxOf_append_of_mem before,
        List.idxOf_append_of_notMem (mt mem_names_ofList.mpr new)]
      exact Nat.lt_add_right _ (List.idxOf_lt_length_of_mem before)

end OrderedMap

/-! ### Properties -/

namespace Properties

variable {depth : Nat} {members : List (List Json.Piece × Json.Syntax)} {inserts : List (String × Value)}
  {p : Properties}

/-- The members of an object spell these entries, one each, a repeated name as often as it comes. -/
def Spelled (depth : Nat) (members : List (List Json.Piece × Json.Syntax))
    (entries : List (String × Value)) : Prop :=
  List.Forall₂ (fun member entry => Json.stringOf? member.1 = some entry.1 ∧
    (member.2.toJson? depth).map Value.ofJson = some entry.2) members entries

/-- Properties that some inserts have made of empty ones: by hand, while an event was built, or when an object
was read. -/
inductive Inserted : List (String × Value) → Properties → Prop where
  | nothing : Inserted [] .empty
  | insert {inserts : List (String × Value)} {p : Properties} (name : String) (value : Value)
    (before : Inserted inserts p) : Inserted (inserts ++ [(name, value)]) (p.insert name value)
  | withProperty {inserts : List (String × Value)} {e : Event} (name : String) (value : Value)
    (before : Inserted inserts e.properties) :
    Inserted (inserts ++ [(name, value)]) (e.withProperty name value).properties
  | object {depth : Nat} {members : List (List Json.Piece × Json.Syntax)}
    {inserts : List (String × Value)} {p : Properties} (spelled : Spelled depth members inserts)
    (read : ofSyntax? (depth + 1) (.object members) = some p) : Inserted inserts p

theorem ofMembers?_eq_some_iff {seen : Properties} : ofMembers? depth members seen = some p ↔
    ∃ inserts, Spelled depth members inserts ∧ seen.insertAll inserts = p := by
  induction members generalizing seen with
  | nil =>
    constructor
    · intro read
      exact ⟨[], .nil, Option.some.inj read⟩
    · rintro ⟨inserts, spelled, made⟩
      cases spelled
      exact congrArg some made
  | cons member members ih =>
    rw [ofMembers?]
    constructor
    · intro read
      obtain ⟨name, decoded, read⟩ := Option.bind_eq_some_iff.mp read
      obtain ⟨j, value, read⟩ := Option.bind_eq_some_iff.mp read
      obtain ⟨inserts, spelled, made⟩ := ih.mp read
      exact ⟨(name, .ofJson j) :: inserts, .cons ⟨decoded, by rw [value]; rfl⟩ spelled, made⟩
    · rintro ⟨_, spelled, made⟩
      cases spelled with
      | cons entry others =>
        obtain ⟨j, value, same⟩ := Option.map_eq_some_iff.mp entry.2
        rw [entry.1, value]
        exact ih.mpr ⟨_, others, by rw [same]; exact made⟩

/-- An object is read exactly if its members spell entries, which are inserted one after the other. -/
theorem ofSyntax?_object_iff : ofSyntax? (depth + 1) (.object members) = some p ↔
    ∃ inserts, Spelled depth members inserts ∧ .ofList inserts = p := ofMembers?_eq_some_iff

/-- Any entries can be inserted, and in whichever way it is done, they make the same properties. -/
theorem inserted_iff : Inserted inserts p ↔ p = .ofList inserts := by
  constructor
  · intro made
    induction made with
    | nothing => rfl
    | insert name value _ ih => rw [OrderedMap.ofList_concat, ih]
    | withProperty name value _ ih => rw [OrderedMap.ofList_concat, ← ih, Event.withProperty]
    | object spelled read =>
      have whole := ofSyntax?_object_iff.mpr ⟨_, spelled, rfl⟩
      exact Option.some.inj (read.symm.trans whole)
  · rintro rfl
    induction inserts using List.reverseRecOn with
    | nil => exact .nothing
    | append_singleton inserts e ih =>
      rw [OrderedMap.ofList_concat]
      exact ih.insert e.1 e.2

/-- Properties are a map in insertion order, however they were made. -/
theorem insertion_ordered (made : Inserted inserts p) :
    (∀ name, p.names.count name = if name ∈ inserts.map Prod.fst then 1 else 0) ∧
      p.names.Pairwise (fun a b =>
        (inserts.map Prod.fst).idxOf a < (inserts.map Prod.fst).idxOf b) ∧
      (∀ name value, p.get? name = some value ↔
        ∃ before after, inserts = before ++ (name, value) :: after ∧ name ∉ after.map Prod.fst) ∧
      (∀ name, p.get? name = none ↔ name ∉ inserts.map Prod.fst) ∧
      p.size = (inserts.map Prod.fst).toFinset.card ∧
      .ofList p.entries = p ∧
      ∀ depth members, Spelled depth members inserts →
        ofSyntax? (depth + 1) (.object members) = some p := by
  obtain rfl := inserted_iff.mp made
  refine ⟨OrderedMap.count_names_ofList inserts, OrderedMap.names_ofList_ordered inserts,
    fun name value => ?_, fun name => ?_, OrderedMap.size_ofList inserts, OrderedMap.ofList_entries _,
    fun depth members spelled => ofSyntax?_object_iff.mpr ⟨inserts, spelled, rfl⟩⟩
  · rw [OrderedMap.get?_ofList, valueOf?_reverse_eq_some_iff]
  · rw [OrderedMap.get?_eq_none_iff, OrderedMap.mem_names_ofList]

theorem completed_event_ordered :
    let members : List (List Json.Piece × Json.Syntax) :=
      [([.plain 'b'], .number ⟨false, ['1'], none, none⟩), ([.plain 'a'], .null),
        ([.unit 0x62], .bool true)]
    let spelled : List (String × Value) :=
      [("b", .long ⟨1, by decide⟩), ("a", .other .null), ("b", .boolean true)]
    let read : Properties := .ofList [("b", .boolean true), ("a", .other .null)]
    let first : Event := (⟨"cpu", read⟩ : Event).withProperty "a" (.text "x")
    let event := first.withProperty "c" (.decimal "1.5")
    let inserts := spelled ++ [("a", .text "x")] ++ [("c", .decimal "1.5")] ++ [("b", .text "y")]
    let p : Properties := event.properties.insert "b" (.text "y")
    ofSyntax? 1 (.object members) = some read ∧ Inserted inserts p ∧
      p.names.count "b" = 1 ∧
      p.names.Pairwise (fun a b =>
        ["b", "a", "b", "a", "c", "b"].idxOf a < ["b", "a", "b", "a", "c", "b"].idxOf b) ∧
      p.get? "a" = some (.text "x") ∧ p.get? "d" = none ∧ p.size = 3 ∧ .ofList p.entries = p := by
  intro members spelled read first event inserts p
  have spells : Spelled 0 members spelled := by
    refine .cons ⟨by decide, ?_⟩ (.cons ⟨by decide, rfl⟩ (.cons ⟨by decide, rfl⟩ .nil))
    decide +kernel
  have parsed : ofSyntax? 1 (.object members) = some read :=
    ofSyntax?_object_iff.mpr ⟨spelled, spells, by decide⟩
  have object : Inserted spelled (⟨"cpu", read⟩ : Event).properties := .object spells parsed
  have given : Inserted (spelled ++ [("a", .text "x")]) first.properties := .withProperty _ _ object
  have made : Inserted inserts p := .insert _ _ (.withProperty _ _ given)
  obtain ⟨once, ordered, last, never, size, again, -⟩ := insertion_ordered made
  exact ⟨parsed, made, once "b", ordered, (last _ _).mpr ⟨spelled, [_, _], rfl, by decide⟩,
    (never "d").mpr (by decide), size, again⟩

end Properties
end EdgeAlert
