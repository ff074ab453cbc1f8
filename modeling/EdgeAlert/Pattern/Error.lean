/-!
# Pattern faults

What can be wrong with a pattern, or with a decimal value that a pattern is asked about.
-/

namespace EdgeAlert

inductive PatternError where
  | unknownPattern (pattern : String)
  | rangeBrackets (body : String)
  | rangeArity (inner : String)
  | invalidNumber (text : String)
  | invalidRegex (body : String)
  deriving DecidableEq

namespace PatternError

def message : PatternError → String
  | .unknownPattern p => "Alert: pattern '" ++ p ++ "' has no recognised prefix"
  | .rangeBrackets b => "Alert: range '" ++ b ++ "' must start with ( or [ and end with ) or ]"
  | .rangeArity i => "Alert: range '" ++ i ++ "' must contain exactly two comma-separated bounds"
  | .invalidNumber t => "Alert: '" ++ t ++ "' is not a number"
  | .invalidRegex b => "Alert: invalid regex '" ++ b ++ "'"

end PatternError
end EdgeAlert
