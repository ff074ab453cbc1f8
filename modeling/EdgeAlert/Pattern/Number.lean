import EdgeAlert.Decimal.Reading
import EdgeAlert.Pattern.Error
import EdgeAlert.Text.Blank
import EdgeAlert.Value

/-!
# Numbers in patterns

The numbers that numeric patterns compare. Integers stay exact. A four-byte value keeps its width, so
that a literal is narrowed to that width before the two are compared; any other mixed pair is
compared as doubles.
-/

namespace EdgeAlert

inductive Number where
  | int (i : Int)
  | single (x : Binary .single)
  | double (x : Binary .double)
  deriving DecidableEq

namespace Number

/-- The number that a literal spells: a floating-point number if it has a point, an integer of eight
bytes otherwise. White space around it does not count. -/
def readLiteral (literal : List Char) : Except PatternError Number :=
  let cs := Text.trim literal
  let number? :=
    if '.' ∈ cs then (Decimal.readBinary? .double cs).map .double
    else (Decimal.readSigned? 64 cs).map fun i => .int i.1
  match number? with
  | some n => .ok n
  | none => .error (.invalidNumber (String.ofList cs))

/-- The number that the text of a decimal spells: an integer of sixteen bytes if it is one, a double
otherwise. -/
def readDecimal (text : List Char) : Except PatternError Number :=
  let cs := Text.trim text
  match Decimal.readSigned? 128 cs with
  | some i => .ok (.int i.1)
  | none =>
    match Decimal.readBinary? .double cs with
    | some x => .ok (.double x)
    | none => .error (.invalidNumber (String.ofList cs))

def ofValue? : Value → Except PatternError (Option Number)
  | .short n => .ok (some (.int n.1))
  | .integer n => .ok (some (.int n.1))
  | .long n => .ok (some (.int n.1))
  | .single x => .ok (some (.single x))
  | .double x => .ok (some (.double x))
  | .decimal text => (readDecimal text.toList).map some
  | .boolean _ | .text _ | .other _ => .ok none

def toDouble : Number → Binary .double
  | .int i => .ofInt .double i
  | .single x => x.convert .double
  | .double x => x

/-- Order of a value against a literal, `none` when one of them is no number. -/
def compare? : (value literal : Number) → Option Ordering
  | .int a, .int b => some (Ord.compare a b)
  | .single a, b => a.compare? (b.toDouble.convert .single)
  | a, b => a.toDouble.compare? b.toDouble

end Number
end EdgeAlert
