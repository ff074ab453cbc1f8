import EdgeAlert.Event
import EdgeAlert.Rules

/-!
# Identities

The name under which the alerts about one attribute are tracked: the attribute, under a type the type
and the attribute, and where the rules name a property that tells instances apart, its value too.
-/

namespace EdgeAlert

def absentValue : String := "null"

/-- The identity of an attribute of an event under a type. -/
def Event.identity (event : Event) (rules : Rules) (type? : Option String) (name : String) :
    String :=
  match type? with
  | none => name
  | some type =>
    match rules.instanceProperty? type with
    | none => type ++ "-" ++ name
    | some property =>
      type ++ "-" ++ name ++ "-" ++
        ((event.properties.get? property).map Value.display).getD absentValue

end EdgeAlert
