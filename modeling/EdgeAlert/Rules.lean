import EdgeAlert.OrderedMap
import EdgeAlert.Severity

/-!
# Rules

The rules are a flat table of texts. Its keys are joined with dots: `attribute.severity` holds a
pattern for events of any type, `type.attribute.severity` one for events of one type, and
`type.alertUUID` the name of the property that tells instances of an attribute apart.
-/

namespace EdgeAlert

abbrev Rules := OrderedMap String

namespace Rules

def untypedKey (name : String) (s : Severity) : String := name ++ "." ++ s.name

def typedKey (type name : String) (s : Severity) : String :=
  type ++ "." ++ name ++ "." ++ s.name

def instanceKey (type : String) : String := type ++ ".alertUUID"

/-- The pattern for an attribute at a severity. The key for any type comes before that for one. -/
def patternFor? (rules : Rules) (name : String) (type? : Option String) (s : Severity) :
    Option String :=
  (rules.get? (untypedKey name s)).or
    (type?.bind fun type => rules.get? (typedKey type name s))

/-- The name of the property that tells instances of an attribute apart, for one type. -/
def instanceProperty? (rules : Rules) (type : String) : Option String := rules.get? (instanceKey type)

end Rules
end EdgeAlert
