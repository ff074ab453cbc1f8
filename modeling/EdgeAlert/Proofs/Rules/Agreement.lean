import EdgeAlert.Rules

/-!
# Agreement of rules

Two tables of rules that agree on some of their keys. What is looked up at a severity stands under
keys with the ending of that severity, and what tells instances apart under keys with an ending of
its own, so agreement on the keys with one ending is agreement on all that is looked up there.
-/

namespace EdgeAlert.Rules

/-- The tables have the same text, or both none, under each of these keys. -/
def AgreeOn (keys : String → Prop) (a b : Rules) : Prop := ∀ key, keys key → a.get? key = b.get? key

def EndsIn (ending key : String) : Prop := ending.toList <:+ key.toList

instance (ending key : String) : Decidable (EndsIn ending key) :=
  inferInstanceAs (Decidable (ending.toList <:+ key.toList))

variable {a b : Rules} {s t : Severity} {key : String} {keys others : String → Prop}

theorem AgreeOn.mono (agree : AgreeOn keys a b) (fewer : ∀ key, others key → keys key) :
    AgreeOn others a b := fun key member => agree key (fewer key member)

theorem AgreeOn.symm (agree : AgreeOn keys a b) : AgreeOn keys b a :=
  fun key member => (agree key member).symm

theorem agreeOn_insert {text : String} (other : ¬keys key) : AgreeOn keys a (a.insert key text) := by
  intro asked member
  rw [OrderedMap.get?_insert, if_neg]
  rintro rfl
  exact other member

/-! ### Endings -/

theorem instanceKey_endsIn (type : String) : EndsIn ".alertUUID" (instanceKey type) :=
  ⟨type.toList, by rw [instanceKey, String.toList_append]⟩

theorem untypedKey_endsIn (name : String) (s : Severity) :
    EndsIn ("." ++ s.name) (untypedKey name s) :=
  ⟨name.toList, by simp [untypedKey]⟩

theorem typedKey_endsIn (type name : String) (s : Severity) :
    EndsIn ("." ++ s.name) (typedKey type name s) :=
  ⟨(type ++ "." ++ name).toList, by simp [typedKey]⟩

/-- Of two endings of one key, one ends in the other. -/
theorem EndsIn.comparable {first second : String} (ends : EndsIn first key)
    (ends' : EndsIn second key) : EndsIn first second ∨ EndsIn second first :=
  List.suffix_or_suffix_of_suffix ends ends'

theorem endsIn_severity_inj (ends : EndsIn ("." ++ s.name) key) (ends' : EndsIn ("." ++ t.name) key) :
    s = t := by
  have comparable := ends.comparable ends'
  unfold EndsIn at comparable
  revert comparable
  cases s <;> cases t <;> decide

theorem endsIn_instance_not_severity (ends : EndsIn ".alertUUID" key) :
    ¬EndsIn ("." ++ s.name) key := by
  intro ends'
  have comparable := ends.comparable ends'
  unfold EndsIn at comparable
  revert comparable
  cases s <;> decide

/-! ### What is looked up -/

theorem patternFor?_congr (agree : AgreeOn (EndsIn ("." ++ s.name)) a b) (name : String)
    (type? : Option String) : a.patternFor? name type? s = b.patternFor? name type? s := by
  unfold patternFor?
  rw [agree _ (untypedKey_endsIn name s)]
  cases type? with
  | none => rfl
  | some type => rw [Option.bind_some, Option.bind_some, agree _ (typedKey_endsIn type name s)]

theorem instanceProperty?_congr (agree : AgreeOn (EndsIn ".alertUUID") a b) (type : String) :
    a.instanceProperty? type = b.instanceProperty? type := agree _ (instanceKey_endsIn type)

end EdgeAlert.Rules
