import EdgeAlert.Value

/-!
# Collected events

An event is a topic and the properties that a collector read. The property `type`, when it is a
string, is the type of the event.
-/

namespace EdgeAlert

structure Event where
  topic : String
  properties : Properties := .empty
  deriving DecidableEq

namespace Event

def typeProperty : String := "type"

def typeOf? (properties : Properties) : Option String :=
  (properties.get? typeProperty).bind Value.text?

def type? (e : Event) : Option String := typeOf? e.properties

def withProperty (e : Event) (name : String) (value : Value) : Event :=
  { e with properties := e.properties.insert name value }

end Event
end EdgeAlert
