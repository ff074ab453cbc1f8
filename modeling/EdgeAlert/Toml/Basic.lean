import EdgeAlert.Binary.Basic
import EdgeAlert.Decimal.Integer

/-!
# TOML values

What a TOML document holds. Integers have eight bytes and floating-point numbers are doubles; dates
and times are kept as their text.
-/

namespace EdgeAlert.Toml

inductive Value where
  | string (s : String)
  | integer (i : Signed 64)
  | float (x : Binary .double)
  | boolean (b : Bool)
  | datetime (text : String)
  | array (items : List Value)
  | table (entries : List (String × Value))

abbrev Table := List (String × Value)

/-- The deepest that arrays, inline tables and dotted keys may nest, and one more. -/
def nestingLimit : Nat := 80

end EdgeAlert.Toml
