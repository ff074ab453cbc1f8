import EdgeAlert.Json.Syntax
import EdgeAlert.Text.Hex

/-!
# Reading JSON

A reader for the JSON grammar. It takes one value off the front of a text and returns its tree with
what follows it. `fuel` bounds the nesting and the number of items; a text's length always suffices.
-/

namespace EdgeAlert.Json

def isSpace (c : Char) : Bool := c = ' ' || c = '\t' || c = '\n' || c = '\r'

def skipSpace (cs : List Char) : List Char := cs.dropWhile isSpace

def simpleEscape? : Char → Option Char
  | '"' => some '"'
  | '\\' => some '\\'
  | '/' => some '/'
  | 'b' => some '\x08'
  | 'f' => some '\x0c'
  | 'n' => some '\n'
  | 'r' => some '\r'
  | 't' => some '\t'
  | _ => none

def readPieces : List Char → Option (List Piece × List Char)
  | [] => none
  | '"' :: rest => some ([], rest)
  | '\\' :: 'u' :: a :: b :: c :: d :: rest => do
    let code ← Text.hexNumber? [a, b, c, d]
    let (pieces, rest) ← readPieces rest
    return (.unit code :: pieces, rest)
  | '\\' :: e :: rest => do
    let c ← simpleEscape? e
    let (pieces, rest) ← readPieces rest
    return (.plain c :: pieces, rest)
  | c :: rest =>
    if c = '\\' ∨ c.toNat < 0x20 then none
    else do
      let (pieces, rest) ← readPieces rest
      return (.plain c :: pieces, rest)

/-- The digits before the point: a zero alone, or digits that do not start with zero. -/
def readWhole : List Char → Option (List Char × List Char)
  | '0' :: rest => some (['0'], rest)
  | cs =>
    let ds := cs.takeWhile Decimal.isDigit
    if ds = [] then none else some (ds, cs.dropWhile Decimal.isDigit)

def readFraction : List Char → Option (Option (List Char) × List Char)
  | '.' :: rest =>
    let ds := rest.takeWhile Decimal.isDigit
    if ds = [] then none else some (some ds, rest.dropWhile Decimal.isDigit)
  | cs => some (none, cs)

def readPower (negative : Bool) (cs : List Char) : Option (Option Int × List Char) :=
  let ds := cs.takeWhile Decimal.isDigit
  if ds = [] then none
  else
    let n := Decimal.readNat ds
    some (some (if negative then -n else n), cs.dropWhile Decimal.isDigit)

def readExponent : List Char → Option (Option Int × List Char)
  | c :: rest =>
    if c = 'e' ∨ c = 'E' then
      match rest with
      | '-' :: rest => readPower true rest
      | '+' :: rest => readPower false rest
      | rest => readPower false rest
    else some (none, c :: rest)
  | [] => some (none, [])

def readUnsigned (negative : Bool) (cs : List Char) : Option (NumberText × List Char) := do
  let (whole, rest) ← readWhole cs
  let (fraction, rest) ← readFraction rest
  let (exponent, rest) ← readExponent rest
  return (⟨negative, whole, fraction, exponent⟩, rest)

def readNumber : List Char → Option (NumberText × List Char)
  | '-' :: rest => readUnsigned true rest
  | cs => readUnsigned false cs

mutual

def readValue : (fuel : Nat) → List Char → Option (Syntax × List Char)
  | 0, _ => none
  | fuel + 1, cs => match skipSpace cs with
    | 'n' :: 'u' :: 'l' :: 'l' :: rest => some (.null, rest)
    | 't' :: 'r' :: 'u' :: 'e' :: rest => some (.bool true, rest)
    | 'f' :: 'a' :: 'l' :: 's' :: 'e' :: rest => some (.bool false, rest)
    | '"' :: rest => (readPieces rest).map fun (pieces, rest) => (.string pieces, rest)
    | '[' :: rest => match skipSpace rest with
      | ']' :: rest => some (.array [], rest)
      | rest => (readItems fuel rest).map fun (items, rest) => (.array items, rest)
    | '{' :: rest => match skipSpace rest with
      | '}' :: rest => some (.object [], rest)
      | rest => (readMembers fuel rest).map fun (members, rest) => (.object members, rest)
    | rest => (readNumber rest).map fun (text, rest) => (.number text, rest)

def readItems : (fuel : Nat) → List Char → Option (List Syntax × List Char)
  | 0, _ => none
  | fuel + 1, cs => match readValue fuel cs with
    | none => none
    | some (item, rest) => match skipSpace rest with
      | ']' :: rest => some ([item], rest)
      | ',' :: rest => (readItems fuel rest).map fun (items, rest) => (item :: items, rest)
      | _ => none

def readMembers : (fuel : Nat) → List Char → Option (List (List Piece × Syntax) × List Char)
  | 0, _ => none
  | fuel + 1, cs => match skipSpace cs with
    | '"' :: rest => match readPieces rest with
      | none => none
      | some (name, rest) => match skipSpace rest with
        | ':' :: rest => match readValue fuel rest with
          | none => none
          | some (value, rest) => match skipSpace rest with
            | '}' :: rest => some ([(name, value)], rest)
            | ',' :: rest =>
              (readMembers fuel rest).map fun (members, rest) => ((name, value) :: members, rest)
            | _ => none
        | _ => none
    | _ => none

end

def readFront (cs : List Char) : Option (Syntax × List Char) := readValue (2 * cs.length + 2) cs

def readSyntax (text : String) : Option Syntax :=
  match readFront text.toList with
  | some (tree, rest) => if skipSpace rest = [] then some tree else none
  | none => none

def read (text : String) : Option Json := (readSyntax text).bind (Syntax.toJson? Syntax.depthLimit)

end EdgeAlert.Json
