import Mathlib.Data.List.Nodup
import EdgeAlert.Identity

/-!
# Identities of one event and of several

The attributes of one event have different identities, because what an identity adds to the name of
its attribute is shared by the whole event. Across events and rules an identity stays the same as
long as the property that tells instances apart does.
-/

namespace EdgeAlert.Event

variable {event event' : Event} {rules rules' : Rules} {type? : Option String}

theorem identity_injective (event : Event) (rules : Rules) (type? : Option String) :
    Function.Injective (event.identity rules type?) := by
  intro name name' same
  unfold identity at same
  cases type? with
  | none => exact same
  | some type =>
    dsimp only at same
    cases named : rules.instanceProperty? type with
    | none =>
      rw [named] at same
      exact (String.append_right_inj _).mp same
    | some property =>
      rw [named] at same
      dsimp only at same
      rw [String.append_left_inj, String.append_left_inj] at same
      exact (String.append_right_inj _).mp same

theorem identities_nodup (event : Event) (rules : Rules) (type? : Option String) :
    (event.properties.names.map (event.identity rules type?)).Nodup :=
  event.properties.nodup.map (identity_injective event rules type?)

/-- The identity of an attribute only depends on the property that tells instances apart. -/
theorem identity_congr (name : String)
    (named : ∀ type, type? = some type → rules'.instanceProperty? type = rules.instanceProperty? type)
    (valued : ∀ type property, type? = some type → rules.instanceProperty? type = some property →
      event'.properties.get? property = event.properties.get? property) :
    event'.identity rules' type? name = event.identity rules type? name := by
  unfold identity
  cases type? with
  | none => rfl
  | some type =>
    dsimp only
    rw [named type rfl]
    cases found : rules.instanceProperty? type with
    | none => rfl
    | some property =>
      dsimp only
      rw [valued type property rfl found]

end EdgeAlert.Event
