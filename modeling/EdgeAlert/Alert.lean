import EdgeAlert.Event
import EdgeAlert.Severity

/-!
# Alerts

What is posted when an attribute starts or stops violating its pattern: the identity of the
attribute, the pattern, and a copy of the properties of the event that was checked. Flattened, an
alert is an event again, its own four fields coming before the copied properties; a copied property
of the same name wins.
-/

namespace EdgeAlert

structure Alert where
  topic : String
  level : Severity
  identity : String
  pattern : String
  backToNormal : Bool
  properties : Properties
  deriving DecidableEq

namespace Alert

def levelField : String := "alertLevel"

def attributeField : String := "alertAttribute"

def patternField : String := "alertPattern"

def backToNormalField : String := "alertBackToNormal"

/-- The pattern of an alert that clears because its rule is gone. -/
def removedPattern : String := "REMOVED"

def about (event : Event) (level : Severity) (identity pattern : String) (backToNormal : Bool) :
    Alert :=
  { topic := level.topic, level, identity, pattern, backToNormal, properties := event.properties }

def fields (a : Alert) : List (String × Value) :=
  [(levelField, .text a.level.name), (attributeField, .text a.identity),
    (patternField, .text a.pattern), (backToNormalField, .boolean a.backToNormal)]

def flatten (a : Alert) : Event :=
  { topic := a.topic, properties := (OrderedMap.ofList a.fields).insertAll a.properties.entries }

def details (a : Alert) : String :=
  String.join (a.flatten.properties.entries.map fun (name, value) =>
    name ++ ":" ++ value.display ++ " | ")

end Alert
end EdgeAlert
