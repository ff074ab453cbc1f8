import EdgeAlert.Pattern.Number
import EdgeAlert.Text.Fields

/-!
# Numeric patterns

Patterns for numeric values: `range:` with a bracket at each end, `equal:` and `notequal:` with a
list of literals. A value complies with `equal:` only if it equals every literal, and a value that is
no number is on neither wrong side of a bound.
-/

namespace EdgeAlert

inductive NumericPattern where
  | range (min : Number) (minIncluded : Bool) (max : Number) (maxIncluded : Bool)
  | equal (literals : List Number)
  | notEqual (literals : List Number)
  deriving DecidableEq

namespace NumericPattern

def opening? : Char → Option Bool
  | '[' => some true
  | '(' => some false
  | _ => none

def closing? : Char → Option Bool
  | ']' => some true
  | ')' => some false
  | _ => none

def unwrap? : List Char → Option (Bool × List Char × Bool)
  | [] => none
  | first :: rest => do
    let minIncluded ← opening? first
    let maxIncluded ← closing? (← rest.getLast?)
    return (minIncluded, rest.dropLast, maxIncluded)

/-- The range that a body spells. The brackets are looked at first, then the number of bounds, then
the bounds in order. -/
def parseRange (body : List Char) : Except PatternError NumericPattern :=
  match unwrap? body with
  | none => .error (.rangeBrackets (String.ofList body))
  | some (minIncluded, inner, maxIncluded) =>
    match Text.fields inner with
    | [min, max] => do
      return .range (← Number.readLiteral min) minIncluded (← Number.readLiteral max) maxIncluded
    | _ => .error (.rangeArity (String.ofList inner))

def parseLiterals (body : List Char) : Except PatternError (List Number) :=
  (Text.fields body).mapM Number.readLiteral

def parse (text : String) : Except PatternError NumericPattern :=
  let cs := text.toList
  match Text.after? "range:".toList cs with
  | some body => parseRange body
  | none =>
    match Text.after? "equal:".toList cs with
    | some body => (parseLiterals body).map .equal
    | none =>
      match Text.after? "notequal:".toList cs with
      | some body => (parseLiterals body).map .notEqual
      | none => .error (.unknownPattern text)

/-- The value is not on the wrong side of a bound: it stands on the given side, or on the bound if
that is included, or nowhere. -/
def within (side : Ordering) (included : Bool) : Option Ordering → Bool
  | none => true
  | some .eq => included
  | some o => o == side

def check (value : Number) : NumericPattern → Bool
  | .range min minIncluded max maxIncluded =>
    within .gt minIncluded (value.compare? min) && within .lt maxIncluded (value.compare? max)
  | .equal literals => literals.all fun l => value.compare? l == some .eq
  | .notEqual literals => literals.all fun l => value.compare? l != some .eq

end NumericPattern
end EdgeAlert
