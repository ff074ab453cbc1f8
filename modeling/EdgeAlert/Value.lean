import EdgeAlert.Decimal.Layout
import EdgeAlert.Json.Writer

/-!
# Property values

What a collected property can hold. Integers and floating-point numbers keep their widths, a decimal
is the text of a number of any size, and whatever JSON has besides is kept as it is.
-/

namespace EdgeAlert

inductive Value where
  | short (n : Signed 16)
  | integer (n : Signed 32)
  | long (n : Signed 64)
  | single (x : Binary .single)
  | double (x : Binary .double)
  | decimal (text : String)
  | boolean (b : Bool)
  | text (s : String)
  | other (json : Json)
  deriving DecidableEq

namespace Value

def text? : Value → Option String
  | .text s => some s
  | _ => none

/-- The value as people read it, and as textual patterns see it. -/
def display : Value → String
  | .short n => String.ofList (Decimal.writeInt n.1)
  | .integer n => String.ofList (Decimal.writeInt n.1)
  | .long n => String.ofList (Decimal.writeInt n.1)
  | .single x => Layout.plain.write x
  | .double x => Layout.plain.write x
  | .decimal s => s
  | .boolean b => if b then "true" else "false"
  | .text s => s
  | .other j => j.toText

/-- The value that a JSON value makes. An integer too large for eight signed bytes keeps its exact
digits as a decimal. -/
def ofJson : Json → Value
  | .bool b => .boolean b
  | .string s => .text s
  | .integer i =>
    match Signed.ofInt? 64 i.1 with
    | some n => .long n
    | none => .decimal (String.ofList (Decimal.writeInt i.1))
  | .float negative m => .double (.finite negative m)
  | .null => .other .null
  | .array items => .other (.array items)
  | .object members => .other (.object members)

/-- The JSON value of a value, in which every floating-point number is a double. -/
def toJson : Value → Json
  | .short n => .integer ⟨n.1, by have := n.2; omega⟩
  | .integer n => .integer ⟨n.1, by have := n.2; omega⟩
  | .long n => .integer ⟨n.1, by have := n.2; omega⟩
  | .single x => Json.ofDouble (x.convert .double)
  | .double x => Json.ofDouble x
  | .decimal s => .string s
  | .boolean b => .bool b
  | .text s => .string s
  | .other j => j

/-- The JSON text of a value. A single is written with its own shortest digits. -/
def writeJson : Value → List Char
  | .single x => Json.writeBinary Json.singleLayout x
  | v => v.toJson.write

end Value

abbrev Properties := OrderedMap Value

end EdgeAlert
