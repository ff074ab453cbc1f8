import EdgeAlert.Json.Basic
import EdgeAlert.Json.Double

/-!
# JSON syntax

The tree that the JSON grammar gives a text, before anything is made of its parts: numbers are
still digits, strings still hold their escaped code units, and objects keep repeated members. A
text can be grammatical and yet have no value, when a number is too large for a double, an escape
is half of a surrogate pair, or the nesting is too deep. `Syntax.toJson?` decides that.
-/

namespace EdgeAlert.Json

/-- The spelling of a number: its digits on both sides of the point and its exponent. A fraction or
an exponent that is not there is `none`. -/
structure NumberText where
  negative : Bool
  whole : List Char
  fraction : Option (List Char)
  exponent : Option Int
  deriving DecidableEq

/-- A part of a string: a character written as itself, or a code unit written as `\u` and digits. -/
inductive Piece where
  | plain (c : Char)
  | unit (code : Nat)
  deriving DecidableEq

inductive Syntax where
  | null
  | bool (value : Bool)
  | number (text : NumberText)
  | string (pieces : List Piece)
  | array (items : List Syntax)
  | object (members : List (List Piece × Syntax))

def isLeading (code : Nat) : Bool := 0xD800 ≤ code && code < 0xDC00

def isTrailing (code : Nat) : Bool := 0xDC00 ≤ code && code < 0xE000

def joinPair (leading trailing : Nat) : Char :=
  Char.ofNat (0x10000 + (leading - 0xD800) * 0x400 + (trailing - 0xDC00))

/-- The characters of a string, unless a surrogate stands alone. -/
def decodePieces : List Piece → Option (List Char)
  | [] => some []
  | .plain c :: rest => (decodePieces rest).map (c :: ·)
  | .unit a :: .unit b :: rest =>
    if isLeading a then
      if isTrailing b then (decodePieces rest).map (joinPair a b :: ·) else none
    else if isTrailing a then none
    else (decodePieces (.unit b :: rest)).map (Char.ofNat a :: ·)
  | .unit a :: rest =>
    if isLeading a || isTrailing a then none else (decodePieces rest).map (Char.ofNat a :: ·)

def stringOf? (pieces : List Piece) : Option String := (decodePieces pieces).map String.ofList

namespace NumberText

def significand (t : NumberText) : Decimal :=
  takeFraction significandLimit (takeWhole significandLimit 0 t.whole) (t.fraction.getD [])

/-- The magnitude that is found for the number, if it is in range. An exponent that 32 bits do not hold
leaves nothing or goes out of range. -/
def magnitude? (t : NumberText) : Option (Magnitude .double) :=
  let x := t.significand
  let exponent := t.exponent.getD 0
  if exponent.natAbs < 0x80000000 then ofParts? x.coefficient (x.exponent + exponent)
  else if x.coefficient = 0 ∨ exponent < 0 then Magnitude.ofUnits? .double 0
  else none

def toDouble? (t : NumberText) : Option Json := t.magnitude?.map (.float t.negative)

/-- The value of the number. Without a fraction and an exponent it is an integer, if it is in range
and not a negative zero; anything else is a double. -/
def toJson? (t : NumberText) : Option Json :=
  if t.fraction.isNone ∧ t.exponent.isNone then
    let n := Decimal.readNat t.whole
    if t.negative ∧ n = 0 then t.toDouble?
    else (Json.ofInt? (if t.negative then -n else n)).or t.toDouble?
  else t.toDouble?

end NumberText

namespace Syntax

mutual

/-- The value of a tree whose arrays and objects nest at most `depth` deep. A member that comes
again replaces the earlier one in place. -/
def toJson? (depth : Nat) : Syntax → Option Json
  | .null => some .null
  | .bool b => some (.bool b)
  | .number t => t.toJson?
  | .string pieces => (stringOf? pieces).map .string
  | .array items => match depth with
    | 0 => none
    | depth + 1 => (itemsToJson? depth items).map .array
  | .object members => match depth with
    | 0 => none
    | depth + 1 => (membersToJson? depth members []).map .object

def itemsToJson? (depth : Nat) : List Syntax → Option (List Json)
  | [] => some []
  | item :: rest => do return (← toJson? depth item) :: (← itemsToJson? depth rest)

def membersToJson? (depth : Nat) :
    List (List Piece × Syntax) → List (String × Json) → Option (List (String × Json))
  | [], seen => some seen
  | (name, value) :: rest, seen => do
    membersToJson? depth rest (putEntry (← stringOf? name) (← toJson? depth value) seen)

end

/-- Arrays and objects may nest this deep in what is read as a value. -/
def depthLimit : Nat := 127

def string? : Syntax → Option String
  | .string pieces => stringOf? pieces
  | _ => none

def bool? : Syntax → Option Bool
  | .bool b => some b
  | _ => none

/-- The members of an object under the given names, one slot for each. Other members are passed over
whatever their values; a given name that comes twice is a fault. -/
def slots? (names : List String) (slots : List (Option Syntax)) :
    List (List Piece × Syntax) → Option (List (Option Syntax))
  | [] => some slots
  | (name, value) :: rest => do
    let name ← stringOf? name
    match names.idxOf? name with
    | none => slots? names slots rest
    | some i =>
      if (slots[i]?.join).isSome then none else slots? names (slots.set i (some value)) rest

/-- The parts of a record with the given field names, which a text may spell as an object or as an
array of the fields in order. A field that is not there is `none`. -/
def fields? (names : List String) : Syntax → Option (List (Option Syntax))
  | .object members => slots? names (names.map fun _ => none) members
  | .array items =>
    if items.length ≤ names.length then
      some (items.map some ++ List.replicate (names.length - items.length) none)
    else none
  | _ => none

end Syntax
end EdgeAlert.Json
