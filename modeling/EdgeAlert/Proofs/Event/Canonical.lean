import EdgeAlert.Event.Codec
import EdgeAlert.Proofs.Json.RoundTrip

/-!
# The canonical text of an event

An event that has been read is written as a text that is read as an event again. If the doubles in it are
read back as they are, only its decimals change: they are written as strings and come back as texts. What
is written for an event is not changed by this, so after one pass reading and writing change nothing any
more.
-/

namespace EdgeAlert

/-! ### Values -/

namespace Value

variable {depth : Nat} {v : Value}

def FromJson (depth : Nat) (v : Value) : Prop := ∃ j, Json.Fits depth j ∧ v = .ofJson j

/-- The value with a decimal made a text. -/
def settled : Value → Value
  | .decimal digits => .text digits
  | v => v

/-- What is read when the value has been written. -/
def readBack (v : Value) : Value := .ofJson v.toJson.readBack

/-- Written as a JSON value, the value is read as the same JSON value. -/
def ReadsBack (v : Value) : Prop := Json.read v.toJson.toText = some v.toJson

instance (v : Value) : Decidable v.ReadsBack := inferInstanceAs (Decidable (_ = _))

theorem writeJson_settled (v : Value) : v.settled.writeJson = v.writeJson := by
  cases v <;> rfl

theorem settled_eq_iff : v.settled = v ↔ ∀ digits, v ≠ .decimal digits := by
  cases v <;> simp [settled]

/-- Only of an integer above the signed ones of eight bytes are the digits kept. -/
theorem ofJson_spec (j : Json) :
    ((ofJson j).toJson = j ∧ (ofJson j).writeJson = j.write ∧ (ofJson j).settled = ofJson j) ∨
      ∃ n : Nat, 0x8000000000000000 ≤ n ∧ n < 0x10000000000000000 ∧
        ofJson j = .decimal (String.ofList (Decimal.digits n)) := by
  cases j with
  | integer i =>
    obtain ⟨i, low, high⟩ := i
    rw [ofJson]
    split
    · rename_i n found
      have same : n.1 = i := by
        rw [Signed.ofInt?] at found
        split at found
        · exact congrArg Subtype.val (Option.some.inj found).symm
        · cases found
      have value : (Value.long n).toJson = .integer ⟨i, low, high⟩ := by
        rw [toJson]
        congr
      exact .inl ⟨value, congrArg Json.write value, rfl⟩
    · rename_i beyond
      have above : ¬ (-2 ^ 63 ≤ i ∧ i < 2 ^ 63) := by
        intro within
        rw [Signed.ofInt?, dif_pos within] at beyond
        cases beyond
      have positive : ¬ i < 0 := by omega
      refine .inr ⟨i.natAbs, by omega, by omega, ?_⟩
      rw [Decimal.writeInt, if_neg positive]
  | null => exact .inl ⟨rfl, rfl, rfl⟩
  | bool b => exact .inl ⟨rfl, rfl, rfl⟩
  | float negative m => exact .inl ⟨rfl, rfl, rfl⟩
  | string s => exact .inl ⟨rfl, rfl, rfl⟩
  | array items => exact .inl ⟨rfl, rfl, rfl⟩
  | object members => exact .inl ⟨rfl, rfl, rfl⟩

theorem FromJson.decimal {digits : String} (read : FromJson depth (.decimal digits)) :
    ∃ n : Nat, 0x8000000000000000 ≤ n ∧ n < 0x10000000000000000 ∧
      digits = String.ofList (Decimal.digits n) := by
  obtain ⟨j, -, same⟩ := read
  rcases ofJson_spec j with ⟨-, -, kept⟩ | ⟨n, low, high, decimal⟩
  · rw [← same] at kept
    cases kept
  · exact ⟨n, low, high, Value.decimal.inj (same.trans decimal)⟩

theorem FromJson.toJson_fits (read : FromJson depth v) : v.toJson.Fits depth := by
  obtain ⟨j, fits, rfl⟩ := read
  rcases ofJson_spec j with ⟨value, -, -⟩ | ⟨n, -, -, decimal⟩
  · rw [value]
    exact fits
  · rw [decimal]
    exact .string _

theorem FromJson.readBack_eq (read : FromJson depth v) (shallow : depth ≤ Json.Syntax.depthLimit)
    (kept : v.ReadsBack) : v.readBack = v.settled := by
  have same : v.toJson.readBack = v.toJson :=
    Option.some.inj ((Json.read_toText (read.toJson_fits.mono shallow)).symm.trans kept)
  obtain ⟨j, -, rfl⟩ := read
  rw [readBack, same]
  rcases ofJson_spec j with ⟨value, -, kept⟩ | ⟨n, -, -, decimal⟩
  · rw [value, kept]
  · rw [decimal]
    rfl

theorem FromJson.writeJson_eq (read : FromJson depth v) : v.writeJson = v.toJson.write := by
  obtain ⟨j, -, rfl⟩ := read
  rcases ofJson_spec j with ⟨value, text, -⟩ | ⟨n, -, -, decimal⟩
  · rw [text, value]
  · rw [decimal]
    rfl

end Value

/-! ### Properties -/

namespace Properties

variable {depth : Nat} {p : Properties}

/-- All values have been read from JSON values of at most this depth. -/
def FromJson (depth : Nat) (p : Properties) : Prop := ∀ entry ∈ p.entries, entry.2.FromJson depth

def settled (p : Properties) : Properties := p.map Value.settled

def readBack (p : Properties) : Properties := p.map Value.readBack

def ReadsBack (p : Properties) : Prop := ∀ entry ∈ p.entries, entry.2.ReadsBack

instance (p : Properties) : Decidable p.ReadsBack :=
  inferInstanceAs (Decidable (∀ entry ∈ p.entries, entry.2.ReadsBack))

theorem writeJson_settled (p : Properties) : p.settled.writeJson = p.writeJson := by
  rw [writeJson, settled, OrderedMap.map, List.map_map, writeJson]
  simp only [Function.comp_def, Value.writeJson_settled]

theorem settled_eq_iff : p.settled = p ↔ ∀ name digits, p.get? name ≠ some (.decimal digits) := by
  constructor
  · intro same name digits held
    have again := p.get?_map Value.settled name
    rw [← settled, same, held] at again
    cases again
  · intro plain
    have kept : ∀ entry ∈ p.entries, (entry.1, entry.2.settled) = id entry := by
      intro entry inside
      have value := Value.settled_eq_iff.mpr fun digits decimal =>
        plain entry.1 digits (p.get?_eq_some_iff.mpr (decimal ▸ inside))
      rw [value, id]
    exact OrderedMap.ext ((List.map_congr_left kept).trans (List.map_id _))

theorem FromJson.members_fit (read : p.FromJson depth) :
    ∀ member ∈ p.entries.map fun entry => (entry.1, entry.2.toJson), Json.Fits depth member.2 := by
  intro member written
  obtain ⟨entry, inside, rfl⟩ := List.mem_map.mp written
  exact (read entry inside).toJson_fits

theorem FromJson.writeJson_eq (read : p.FromJson depth) : p.writeJson = p.toJson.write := by
  have values : ∀ entry ∈ p.entries, (entry.1, entry.2.writeJson) = (entry.1, entry.2.toJson.write) :=
    fun entry inside => by rw [(read entry inside).writeJson_eq]
  rw [writeJson, toJson, ← Json.writeObject_write, List.map_map, List.map_congr_left values]
  rfl

theorem FromJson.insert {name : String} {value : Value} (all : p.FromJson depth)
    (read : value.FromJson depth) : FromJson depth (p.insert name value) := by
  intro entry member
  rcases mem_of_mem_putEntry member with rfl | old
  · exact read
  · exact all entry old

theorem FromJson.insertAll {entries : List (String × Value)} (all : p.FromJson depth)
    (read : ∀ entry ∈ entries, entry.2.FromJson depth) : FromJson depth (p.insertAll entries) := by
  induction entries generalizing p with
  | nil => exact all
  | cons entry entries ih =>
    obtain ⟨first, others⟩ := List.forall_mem_cons.mp read
    exact ih (all.insert first) others

theorem fromJson_ofMembers? {trees : List (List Json.Piece × Json.Syntax)} {seen : Properties}
    (all : seen.FromJson depth) (found : ofMembers? depth trees seen = some p) : p.FromJson depth := by
  induction trees generalizing seen with
  | nil =>
    rw [ofMembers?] at found
    exact Option.some.inj found ▸ all
  | cons tree trees ih =>
    rw [ofMembers?] at found
    obtain ⟨name, -, found⟩ := Option.bind_eq_some_iff.mp found
    obtain ⟨j, value, found⟩ := Option.bind_eq_some_iff.mp found
    exact ih (all.insert ⟨j, Json.fits_of_toJson? value, rfl⟩) found

theorem fromJson_ofSyntax? {tree : Json.Syntax} (found : ofSyntax? (depth + 1) tree = some p) :
    p.FromJson depth := by
  cases tree with
  | object trees => exact fromJson_ofMembers? (fun _ none => absurd none List.not_mem_nil) found
  | null => cases found
  | bool b => cases found
  | number t => cases found
  | string pieces => cases found
  | array items => cases found

theorem ofMembers?_trees {members : List (String × Json)} (seen : Properties)
    (all : ∀ member ∈ members, Json.Fits depth member.2) :
    ofMembers? depth (Json.memberTrees members) seen =
      some (seen.insertAll (members.map fun member => (member.1, .ofJson member.2.readBack))) := by
  induction members generalizing seen with
  | nil => rfl
  | cons member members ih =>
    obtain ⟨first, others⟩ := List.forall_mem_cons.mp all
    rw [Json.memberTrees, ofMembers?, Json.stringOf?_pieces, Json.toJson?_tree first]
    exact ih _ others

theorem FromJson.ofSyntax?_toJson (read : p.FromJson depth) :
    ofSyntax? (depth + 1) p.toJson.tree = some p.readBack := by
  have entries : p.readBack.entries =
      (p.entries.map fun entry => (entry.1, entry.2.toJson)).map fun member =>
        (member.1, .ofJson member.2.readBack) := by
    rw [List.map_map]
    rfl
  rw [toJson, Json.tree, ofSyntax?, ofMembers?_trees .empty read.members_fit, ← entries]
  exact congrArg some p.readBack.ofList_entries

theorem FromJson.readBack_eq (read : p.FromJson depth) (shallow : depth ≤ Json.Syntax.depthLimit)
    (kept : p.ReadsBack) : p.readBack = p.settled := by
  refine OrderedMap.ext (List.map_congr_left fun entry inside => ?_)
  rw [(read entry inside).readBack_eq shallow (kept entry inside)]

end Properties

/-! ### Events -/

namespace Event

variable {text : String} {e : Event}

/-- The values of the properties of an event may nest this deep: the event itself and its properties
are two levels above them. -/
def valueDepth : Nat := 125

def settled (e : Event) : Event := { e with properties := e.properties.settled }

theorem settled_eq_iff :
    e.settled = e ↔ ∀ name digits, e.properties.get? name ≠ some (.decimal digits) := by
  rw [← Properties.settled_eq_iff, settled]
  constructor
  · exact fun same => congrArg Event.properties same
  · intro same
    rw [same]

theorem toText_settled (e : Event) : e.settled.toText = e.toText := by
  rw [toText, writeJson, settled, Properties.writeJson_settled, toText, writeJson]

theorem fromJson_of_read (read : Event.read text = some e) : e.properties.FromJson valueDepth := by
  obtain ⟨tree, -, spelled⟩ := Option.bind_eq_some_iff.mp read
  rw [ofSyntax?] at spelled
  split at spelled
  · obtain ⟨topic, -, found⟩ := Option.bind_eq_some_iff.mp spelled
    split at found
    · obtain rfl := Option.some.inj found
      exact fun _ none => absurd none List.not_mem_nil
    · obtain ⟨properties, parsed, found⟩ := Option.bind_eq_some_iff.mp found
      obtain rfl := Option.some.inj found
      exact Properties.fromJson_ofSyntax? parsed
  · cases spelled

theorem toText_eq (read : e.properties.FromJson valueDepth) :
    e.toText = (Json.object [("topic", .string e.topic), ("properties", e.properties.toJson)]).toText := by
  rw [toText, writeJson, read.writeJson_eq, Json.toText, ← Json.writeObject_write]
  rfl

/-- An object is read as an event if a topic and properties are found in it. -/
theorem read_object {members : List (String × Json)} {topic : String} {p : Properties}
    (read : p.FromJson valueDepth)
    (fields : Json.Syntax.fields? fieldNames (Json.object members).tree =
      some [some (.string (Json.pieces topic)), some p.toJson.tree]) :
    Event.read (Json.object members).toText = some { topic, properties := p.readBack } := by
  have properties : Properties.ofSyntax? (Json.Syntax.depthLimit - 1) p.toJson.tree = some p.readBack :=
    read.ofSyntax?_toJson
  rw [Event.read, Json.readSyntax_toText, Option.bind_some, ofSyntax?, fields]
  simp only [Json.Syntax.string?, Json.stringOf?_pieces, properties]
  rfl

theorem read_toText (read : e.properties.FromJson valueDepth) :
    Event.read e.toText = some { e with properties := e.properties.readBack } := by
  rw [toText_eq read]
  refine read_object read ?_
  rw [Json.tree, Json.Syntax.fields?]
  simp only [Json.slots?_memberTrees]
  rfl

/-- Writing an event and reading it makes its decimals texts, and from then on nothing changes. -/
theorem read_settles (read : Event.read text = some e) (kept : e.properties.ReadsBack) :
    ∃ again, Event.read e.toText = some again ∧
      again.topic = e.topic ∧ again.properties.names = e.properties.names ∧
      (∀ name, again.properties.get? name = (e.properties.get? name).map Value.settled) ∧
      (∀ name digits, e.properties.get? name = some (.decimal digits) →
        ∃ n : Nat, 0x8000000000000000 ≤ n ∧ n < 0x10000000000000000 ∧
          digits = String.ofList (Decimal.digits n)) ∧
      again.toText = e.toText ∧
      (again = e ↔ ∀ name digits, e.properties.get? name ≠ some (.decimal digits)) := by
  have values := fromJson_of_read read
  have reread : Event.read e.toText = some e.settled := by
    rw [read_toText values, values.readBack_eq (by decide) kept]
    rfl
  refine ⟨e.settled, reread, rfl, e.properties.names_map _, e.properties.get?_map _,
    fun name digits held => ?_, toText_settled e, settled_eq_iff⟩
  exact (values _ (e.properties.get?_eq_some_iff.mp held)).decimal

/-- An event spelled as an array, with a repeated name, doubles and an integer that becomes a text. -/
theorem large_counter_settles :
    let text := "[\"cpu\", \x7b\"n\": 1, \"sent\": 18446744073709551615, \"load\": 0.10, " ++
      "\"n\": [null, 2.50e1]\x7d]"
    ∃ e again, Event.read text = some e ∧ Event.read e.toText = some again ∧
      again.topic = "cpu" ∧ again.properties.names = ["n", "sent", "load"] ∧
      e.properties.get? "sent" = some (.decimal "18446744073709551615") ∧
      again.properties.get? "sent" = some (.text "18446744073709551615") ∧
      again.toText = e.toText ∧ again ≠ e := by
  intro text
  have held : (Event.read text).map (fun e =>
      (e.topic, e.properties.names, e.properties.get? "sent", decide e.properties.ReadsBack)) =
      some ("cpu", ["n", "sent", "load"], some (.decimal "18446744073709551615"), true) := by decide +kernel
  obtain ⟨e, read, held⟩ := Option.map_eq_some_iff.mp held
  simp only [Prod.mk.injEq, decide_eq_true_eq] at held
  obtain ⟨topic, names, sent, kept⟩ := held
  obtain ⟨again, reread, topic', names', values, -, settled, same⟩ := read_settles read kept
  refine ⟨e, again, read, reread, topic'.trans topic, names'.trans names, sent, ?_, settled,
    fun equal => ?_⟩
  · rw [values, sent]
    rfl
  · exact same.mp equal "sent" _ sent

end Event
end EdgeAlert
