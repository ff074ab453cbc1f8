import EdgeAlert.Proofs.Checker.Clearing
import EdgeAlert.Proofs.Rules.Agreement
import EdgeAlert.Proofs.Text.Cut

/-!
# A rule for one type

The key of a rule for one type is a text with dots, and other attributes may spell the same text, alone or
together with the type of their event. `typed_rule_reach`: a rule for one type raises alerts about those
attributes that spell its key, and about no others. Without dots in its type and its attribute these are its
own attribute, under its own type, and one that has the whole of the key for its name.
-/

namespace EdgeAlert

namespace Rules

def typed (type subject : String) (s : Severity) (pattern : String) : Rules :=
  .insert .empty (typedKey type subject s) pattern

variable {type subject pattern name : String} {type? : Option String} {s level : Severity}

/-- An attribute of an event spells the key of the rule, by itself or with the type of the event. -/
def Spelled (type subject : String) (type? : Option String) (name : String) : Prop :=
  name = type ++ "." ++ subject ∨ ∃ own, type? = some own ∧ own ++ "." ++ name = type ++ "." ++ subject

theorem get?_typed (key : String) : (typed type subject s pattern).get? key =
    if key = typedKey type subject s then some pattern else none := by
  rw [typed, OrderedMap.get?_insert, OrderedMap.get?_empty]

theorem instanceProperty?_typed (own : String) :
    (typed type subject s pattern).instanceProperty? own = none := by
  rw [instanceProperty?, get?_typed, if_neg]
  intro same
  have ends := instanceKey_endsIn own
  rw [same] at ends
  exact endsIn_instance_not_severity ends (typedKey_endsIn type subject s)

theorem typedKey_eq_untypedKey (own name : String) (s : Severity) :
    typedKey own name s = untypedKey (own ++ "." ++ name) s := by
  simp [typedKey, untypedKey]

theorem untypedKey_eq_typedKey :
    untypedKey name level = typedKey type subject s ↔ level = s ∧ name = type ++ "." ++ subject := by
  constructor
  · intro same
    have ends := untypedKey_endsIn name level
    rw [same] at ends
    obtain rfl := endsIn_severity_inj ends (typedKey_endsIn type subject s)
    refine ⟨rfl, ?_⟩
    rw [typedKey_eq_untypedKey, untypedKey, untypedKey, ← String.toList_inj] at same
    simp only [String.toList_append] at same
    rw [← String.toList_inj]
    simpa using List.append_cancel_right (List.append_cancel_right same)
  · rintro ⟨rfl, rfl⟩
    rw [typedKey_eq_untypedKey]

/-- The rule is found for what spells its key, at its severity. -/
theorem patternFor?_typed {found : String} :
    (typed type subject s pattern).patternFor? name type? level = some found ↔
      level = s ∧ Spelled type subject type? name ∧ found = pattern := by
  have alone : (typed type subject s pattern).get? (untypedKey name level) =
      if level = s ∧ name = type ++ "." ++ subject then some pattern else none := by
    rw [get?_typed]
    simp only [untypedKey_eq_typedKey]
  have together : ∀ own, (typed type subject s pattern).get? (typedKey own name level) =
      if level = s ∧ own ++ "." ++ name = type ++ "." ++ subject then some pattern else none := by
    intro own
    rw [get?_typed, typedKey_eq_untypedKey own]
    simp only [untypedKey_eq_typedKey]
  unfold patternFor? Spelled
  rw [alone]
  cases type? with
  | none =>
    rw [Option.bind_none, Option.or_none]
    grind
  | some own =>
    rw [Option.bind_some, together own]
    grind

theorem spelled_under_type : Spelled type subject (some type) name ↔
    name = type ++ "." ++ subject ∨ name = subject := by
  constructor
  · rintro (whole | ⟨own, same, spelled⟩)
    · exact Or.inl whole
    · obtain rfl := Option.some.inj same
      rw [← String.toList_inj] at spelled
      simp only [String.toList_append] at spelled
      exact Or.inr (String.toList_inj.mp (List.append_cancel_left spelled))
  · rintro (whole | rfl)
    · exact Or.inl whole
    · exact Or.inr ⟨type, rfl, rfl⟩

theorem spelled_of_dotless (types : '.' ∉ type.toList) (subjects : '.' ∉ subject.toList)
    (spelled : Spelled type subject type? name) :
    name = type ++ "." ++ subject ∨ type? = some type ∧ name = subject := by
  rcases spelled with whole | ⟨own, here, same⟩
  · exact Or.inl whole
  · right
    have cut := congrArg (fun key => Text.cut '.' key.toList) same
    have dot : ∀ a b : String, (a ++ "." ++ b).toList = a.toList ++ '.' :: b.toList := by simp
    simp only [dot, Text.cut_append, Text.cut_of_notMem types, Text.cut_of_notMem subjects] at cut
    -- Two pieces leave one for the type of the event and one for the attribute.
    have lengths := congrArg List.length cut
    simp only [List.length_append, List.length_cons, List.length_nil] at lengths
    have first := List.length_pos_iff.mpr (Text.cut_ne_nil '.' own.toList)
    have second := List.length_pos_iff.mpr (Text.cut_ne_nil '.' name.toList)
    obtain ⟨owns, names⟩ := List.append_inj cut (by simp only [List.length_singleton]; omega)
    rw [← Text.cut_of_notMem types, Text.cut_inj, String.toList_inj] at owns
    rw [← Text.cut_of_notMem subjects, Text.cut_inj, String.toList_inj] at names
    exact ⟨here.trans (congrArg some owns), names⟩

end Rules

namespace Checker

open Rules

variable {checker : Checker} {event : Event} {x : String} {s level : Severity}

def Raises (checker : Checker) (event : Event) (x : String) (s : Severity) : Prop :=
  ∃ a ∈ (checker.handle event).alerts, a.identity = x ∧ a.level = s ∧ a.backToNormal = false

theorem raises_iff : checker.Raises event x s ↔
    checker.store.known x s = false ∧ ∃ o ∈ event.observed checker.rules, o.identity = x ∧ o.alerting s = true := by
  have changed := posted_iff checker event x s
  have after := handle_known_iff checker event x s
  constructor
  · rintro ⟨a, posted, identity, at_, raised⟩
    have known := posted_known posted
    rw [identity, at_, raised, Bool.not_false] at known
    have differs := changed.mp ⟨a, posted, identity, at_⟩
    rw [known, ne_eq, Bool.not_eq_true] at differs
    refine ⟨differs, ?_⟩
    rcases after.mp known with alerting | ⟨-, before⟩
    · exact alerting
    · rw [differs] at before
      cases before
  · rintro ⟨unknown, alerting⟩
    have known := after.mpr (Or.inl alerting)
    obtain ⟨a, posted, identity, at_⟩ := changed.mpr (by simp [unknown, known])
    refine ⟨a, posted, identity, at_, ?_⟩
    have back := posted_known posted
    rw [identity, at_, known] at back
    simpa using back.symm

theorem identity_typed (event : Event) (type subject pattern name : String) (s : Severity) :
    event.identity (typed type subject s pattern) event.type? name =
      match event.type? with | none => name | some own => own ++ "-" ++ name := by
  unfold Event.identity
  cases event.type? with
  | none => rfl
  | some own => simp only [instanceProperty?_typed]

section Typed

variable {type subject pattern : String} {store : Store}

theorem raises_typed_iff : Raises ⟨typed type subject s pattern, store⟩ event x level ↔
    level = s ∧ x ∉ store.alerting s ∧ ∃ name value, event.properties.get? name = some value ∧
      event.identity (typed type subject s pattern) event.type? name = x ∧
      Spelled type subject event.type? name ∧ value.verdict pattern = .ok false := by
  rw [raises_iff, ← Bool.not_eq_true, Store.known_iff]
  constructor
  · rintro ⟨unknown, ⟨rules, event', name, value⟩, member, same, alerting⟩
    obtain ⟨rfl, rfl, held⟩ := mem_observed.mp member
    obtain ⟨found, ruled, refused⟩ := Observation.alerting_iff.mp alerting
    obtain ⟨rfl, spelled, rfl⟩ := patternFor?_typed.mp ruled
    exact ⟨rfl, unknown, name, value, held, same, spelled, refused⟩
  · rintro ⟨rfl, unknown, name, value, held, same, spelled, refused⟩
    refine ⟨unknown, ⟨typed type subject level pattern, event, name, value⟩,
      mem_observed.mpr ⟨rfl, rfl, held⟩, same, Observation.alerting_iff.mpr ⟨pattern, ?_, refused⟩⟩
    exact patternFor?_typed.mpr ⟨rfl, spelled, rfl⟩

/-- Without dots, an alert is about the attribute of the rule under the type of the rule. -/
theorem own_of_raises (types : '.' ∉ type.toList) (subjects : '.' ∉ subject.toList)
    (absent : event.properties.get? (type ++ "." ++ subject) = none)
    (raised : Raises ⟨typed type subject s pattern, store⟩ event x level) :
    event.type? = some type ∧ level = s ∧ x = type ++ "-" ++ subject := by
  obtain ⟨at_, -, name, value, held, same, spelled, -⟩ := raises_typed_iff.mp raised
  rcases spelled_of_dotless types subjects spelled with rfl | ⟨own, rfl⟩
  · rw [absent] at held
    cases held
  · rw [identity_typed, own] at same
    exact ⟨own, at_, same.symm⟩

end Typed

/-- A rule for one type raises alerts about those attributes that spell its key, alone or with their type. -/
theorem typed_rule_reach (type subject pattern : String) (s : Severity) (store : Store) (event : Event) :
    let checker : Checker := ⟨typed type subject s pattern, store⟩
    let identity := fun name => match event.type? with | none => name | some own => own ++ "-" ++ name
    (∀ x level, checker.Raises event x level ↔ level = s ∧ x ∉ store.alerting s ∧
      ∃ name value, event.properties.get? name = some value ∧ identity name = x ∧
        Spelled type subject event.type? name ∧ value.verdict pattern = .ok false) ∧
    (event.type? = some type → ∀ name,
      (Spelled type subject event.type? name ↔ name = type ++ "." ++ subject ∨ name = subject)) ∧
    ('.' ∉ type.toList → '.' ∉ subject.toList →
      event.properties.get? (type ++ "." ++ subject) = none →
      (event.type? ≠ some type → ∀ x level, ¬checker.Raises event x level) ∧
      (event.type? = some type → ∀ x level, checker.Raises event x level →
        level = s ∧ x = type ++ "-" ++ subject)) := by
  intro checker identity
  refine ⟨fun x level => ?_, fun own name => ?_, fun types subjects absent => ⟨?_, ?_⟩⟩
  · rw [raises_typed_iff]
    simp only [identity_typed, identity]
  · rw [own]
    exact spelled_under_type
  · intro other x level raised
    exact other (own_of_raises types subjects absent raised).1
  · intro own x level raised
    exact (own_of_raises types subjects absent raised).2

def countEvent (type name : String) (count : Signed 64) : Event where
  topic := "decanter/collect/" ++ type
  properties := .ofList [("type", .text type), (name, .long count)]

theorem thread_count_of_its_type :
    let checker : Checker := ⟨typed "jmx" "ThreadCount" .error "range:[0,100]", {}⟩
    let own := countEvent "jmx" "ThreadCount" ⟨500, by decide⟩
    let other := countEvent "log" "ThreadCount" ⟨500, by decide⟩
    own.type? = some "jmx" ∧ checker.Raises own "jmx-ThreadCount" .error ∧
      other.type? = some "log" ∧ other.properties.get? "jmx.ThreadCount" = none ∧
      ∀ x level, ¬checker.Raises other x level := by
  intro checker own other
  have ownType : own.type? = some "jmx" := by decide +kernel
  have otherType : other.type? = some "log" := by decide +kernel
  have absent : other.properties.get? ("jmx" ++ "." ++ "ThreadCount") = none := by decide +kernel
  obtain ⟨reach, -, -⟩ := typed_rule_reach "jmx" "ThreadCount" "range:[0,100]" .error {} own
  obtain ⟨-, -, dotless⟩ := typed_rule_reach "jmx" "ThreadCount" "range:[0,100]" .error {} other
  refine ⟨ownType, (reach _ _).mpr ⟨rfl, by decide, "ThreadCount", .long ⟨500, by decide⟩, ?_, ?_, ?_, ?_⟩,
    otherType, absent, (dotless (by decide) (by decide) absent).1 ?_⟩
  · decide +kernel
  · rw [ownType]
    rfl
  · exact Or.inr ⟨"jmx", ownType, rfl⟩
  · decide +kernel
  · rw [otherType]
    decide

/-- A rule for one type raises an alert about an event of another, whose names have dots. -/
theorem dotted_names_reached :
    let whole := countEvent "log" "jmx.ThreadCount" ⟨500, by decide⟩
    let parted := countEvent "jmx.pool" "size" ⟨500, by decide⟩
    let raised := fun (rules : Rules) (event : Event) =>
      (Checker.handle ⟨rules, {}⟩ event).alerts.map fun a => (a.level, a.identity, a.backToNormal)
    whole.type? = some "log" ∧
      raised (typed "jmx" "ThreadCount" .error "range:[0,100]") whole = [(.error, "log-jmx.ThreadCount", false)] ∧
      parted.type? = some "jmx.pool" ∧
      raised (typed "jmx" "pool.size" .error "range:[0,100]") parted = [(.error, "jmx.pool-size", false)] := by
  decide +kernel

end Checker
end EdgeAlert
