import EdgeAlert.Decimal.Layout
import EdgeAlert.Json.Basic

/-!
# Writing JSON

The compact text of a JSON value: no white space, members in order, and in strings only the
characters escaped that JSON does not allow to stand for themselves.
-/

namespace EdgeAlert.Json

/-- Doubles are written without an exponent from `1e-5` to below `1e16`, and a whole number keeps a
zero after its point. -/
def doubleLayout : Layout where
  tie := .even
  positional := fun point => -4 ≤ point && point ≤ 16
  wholeSuffix := ".0"
  nan := "null"
  infinity := "null"

def singleLayout : Layout := { doubleLayout with positional := fun point => -5 ≤ point && point ≤ 13 }

def hexDigit (n : Nat) : Char := Nat.digitChar n

def escape (c : Char) : List Char :=
  if c = '"' then ['\\', '"']
  else if c = '\\' then ['\\', '\\']
  else if c = '\x08' then ['\\', 'b']
  else if c = '\x0c' then ['\\', 'f']
  else if c = '\n' then ['\\', 'n']
  else if c = '\r' then ['\\', 'r']
  else if c = '\t' then ['\\', 't']
  else if c.toNat < 0x20 then
    ['\\', 'u', '0', '0', hexDigit (c.toNat / 16), hexDigit (c.toNat % 16)]
  else [c]

def writeString (s : String) : List Char := '"' :: (s.toList.flatMap escape ++ ['"'])

def writeBinary {f : Format} (layout : Layout) : Binary f → List Char
  | .finite negative m => (if negative then ['-'] else []) ++ (m.shortest layout.tie).write layout
  | .nan | .infinite _ => "null".toList

def writeObject (members : List (String × List Char)) : List Char :=
  '{' :: ((members.map fun (name, value) => writeString name ++ ':' :: value).intersperse [',']).flatten
    ++ ['}']

mutual

def write : Json → List Char
  | .null => "null".toList
  | .bool true => "true".toList
  | .bool false => "false".toList
  | .integer i => Decimal.writeInt i.1
  | .float negative m => writeBinary doubleLayout (.finite negative m)
  | .string s => writeString s
  | .array items => '[' :: writeItems items
  | .object members => '{' :: writeMembers members

def writeItems : List Json → List Char
  | [] => [']']
  | [item] => write item ++ [']']
  | item :: rest => write item ++ ',' :: writeItems rest

def writeMembers : List (String × Json) → List Char
  | [] => ['}']
  | [(name, value)] => writeString name ++ ':' :: write value ++ ['}']
  | (name, value) :: rest => writeString name ++ ':' :: write value ++ ',' :: writeMembers rest

end

def toText (j : Json) : String := String.ofList j.write

end EdgeAlert.Json
