import EdgeAlert.Pattern.Error
import EdgeAlert.Regex
import EdgeAlert.Text.Fields

/-!
# Textual patterns

Patterns for values that are no numbers: `match:` and `notmatch:` with a regular expression for the
whole of the text.
-/

namespace EdgeAlert

inductive TextualPattern where
  | matching (regex : Regex)
  | notMatching (regex : Regex)

namespace TextualPattern

/-- The text of the expression that asks for a body to match from end to end. -/
def anchored (body : List Char) : List Char := "^(?:".toList ++ body ++ ")$".toList

def readBody (body : List Char) : Except PatternError Regex :=
  match Regex.read? (anchored body) with
  | some regex => .ok regex
  | none => .error (.invalidRegex (String.ofList body))

def parse (text : String) : Except PatternError TextualPattern :=
  let cs := text.toList
  match Text.after? "match:".toList cs with
  | some body => (readBody body).map .matching
  | none =>
    match Text.after? "notmatch:".toList cs with
    | some body => (readBody body).map .notMatching
    | none => .error (.unknownPattern text)

def check (text : String) : TextualPattern → Bool
  | .matching regex => regex.isMatch text.toList
  | .notMatching regex => !regex.isMatch text.toList

end TextualPattern
end EdgeAlert
