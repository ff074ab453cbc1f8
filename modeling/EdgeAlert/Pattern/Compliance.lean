import EdgeAlert.Notice
import EdgeAlert.Pattern.Numeric
import EdgeAlert.Pattern.Textual

/-!
# Compliance

Whether a value complies with a pattern. Numeric values are held against numeric patterns and all
others, by their displayed text, against textual ones. A pattern that gives no verdict is reported
and never raises an alert.
-/

namespace EdgeAlert.Value

/-- The verdict of a pattern on a value. The number in a decimal is read before the pattern. -/
def verdict (value : Value) (pattern : String) : Except PatternError Bool := do
  match ← Number.ofValue? value with
  | some number => return (← NumericPattern.parse pattern).check number
  | none => return (← TextualPattern.parse pattern).check value.display

/-- The value complies with the pattern, or the pattern gives no verdict. -/
def complies (value : Value) (pattern : String) : Noted Bool :=
  match value.verdict pattern with
  | .ok verdict => { value := verdict }
  | .error _ => { value := true, notices := [.malformedPattern pattern] }

end EdgeAlert.Value
