import EdgeAlert.Text.Fields
import EdgeAlert.Toml.Document
import EdgeAlert.Toml.Scalar
import EdgeAlert.Toml.Text

/-!
# Reading TOML

A reader for TOML documents. Values are read first, and then the lines of a document: headers, keys
with values, comments and blank lines.
-/

namespace EdgeAlert.Toml

mutual

/-- A value and what follows it. Arrays and inline tables may nest `depth` deep; `fuel` bounds the
number of values. -/
def readValue : (fuel depth : Nat) → List Char → Option (Value × List Char)
  | 0, _, _ => none
  | fuel + 1, depth, cs => match cs with
    | '"' :: _ | '\'' :: _ => (readString? cs).map fun (s, rest) => (.string s, rest)
    | 't' :: 'r' :: 'u' :: 'e' :: rest => some (.boolean true, rest)
    | 'f' :: 'a' :: 'l' :: 's' :: 'e' :: rest => some (.boolean false, rest)
    | '[' :: rest => match depth with
      | 0 => none
      | depth + 1 => (readItems fuel depth rest).map fun (items, rest) => (.array items, rest)
    | '{' :: rest => match depth with
      | 0 => none
      | depth + 1 => match skipBlanks rest with
        | '}' :: rest => some (.table [], rest)
        | rest => (readMembers fuel depth (.new .declared) rest).map fun (draft, rest) =>
          (.table draft.toTable, rest)
    | cs => readNumeric cs

def readItems : (fuel depth : Nat) → List Char → Option (List Value × List Char)
  | 0, _, _ => none
  | fuel + 1, depth, cs => match skipLines? (cs.length + 1) cs with
    | none => none
    | some (']' :: rest) => some ([], rest)
    | some rest => match readValue fuel depth rest with
      | none => none
      | some (item, rest) => match skipLines? (rest.length + 1) rest with
        | some (',' :: rest) =>
          (readItems fuel depth rest).map fun (items, rest) => (item :: items, rest)
        | some (']' :: rest) => some ([item], rest)
        | _ => none

def readMembers : (fuel depth : Nat) → Draft → List Char → Option (Draft × List Char)
  | 0, _, _, _ => none
  | fuel + 1, depth, draft, cs => match readKey cs with
    | some (path, key, '=' :: rest) => match readValue fuel depth (skipBlanks rest) with
      | none => none
      | some (v, rest) => match draft.assign? path key v with
        | none => none
        | some draft => match skipBlanks rest with
          | ',' :: rest => readMembers fuel depth draft rest
          | '}' :: rest => some (draft, rest)
          | _ => none
    | _ => none

end

def readHeader (closing : List Char) (cs : List Char) :
    Option (List String × String × List Char) := do
  let (path, key, rest) ← readKey cs
  let rest ← Text.after? closing rest
  return (path, key, ← endLine? rest)

def readAssignment (cs : List Char) : Option (List String × String × Value × List Char) := do
  match ← readKey cs with
  | (path, key, '=' :: rest) =>
    let (v, rest) ← readValue (rest.length + 1) (nestingLimit - 1) (skipBlanks rest)
    return (path, key, v, ← endLine? rest)
  | _ => none

/-- The document that the rest of its lines make of a draft. `table` is the path of the open table.
Every step ends a line, so the length is fuel enough. -/
def readLines : (fuel : Nat) → (draft : Draft) → (table : List String) → List Char → Option Draft
  | 0, _, _, _ => none
  | fuel + 1, draft, table, cs => match skipBlanks cs with
    | [] => some draft
    | '#' :: rest => (endLine? ('#' :: rest)).bind (readLines fuel draft table)
    | '\n' :: rest => readLines fuel draft table rest
    | '\r' :: rest => (afterNewline? ('\r' :: rest)).bind (readLines fuel draft table)
    | '[' :: '[' :: rest => do
      let (path, key, rest) ← readHeader "]]".toList rest
      readLines fuel (← draft.openElement? path key) (path ++ [key]) rest
    | '[' :: rest => do
      let (path, key, rest) ← readHeader "]".toList rest
      readLines fuel (← draft.openTable? path key) (path ++ [key]) rest
    | rest => do
      let (path, key, v, rest) ← readAssignment rest
      readLines fuel (← draft.assignAt? table path key v) table rest

def dropMark : List Char → List Char
  | '\ufeff' :: rest => rest
  | cs => cs

def read (text : String) : Option Table :=
  (readLines (text.toList.length + 1) (.new .declared) [] (dropMark text.toList)).map Draft.toTable

end EdgeAlert.Toml
