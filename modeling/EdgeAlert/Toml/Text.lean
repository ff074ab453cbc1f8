import EdgeAlert.Text.Hex
import EdgeAlert.Toml.Basic

/-!
# Text in TOML

Reading white space, comments, line ends, strings and keys.
-/

namespace EdgeAlert.Toml

def isBlank (c : Char) : Bool := c = ' ' || c = '\t'

def skipBlanks (cs : List Char) : List Char := cs.dropWhile isBlank

def isPlain (c : Char) : Bool := c = '\t' || (0x20 ≤ c.toNat && c ≠ '\x7f')

def afterNewline? : List Char → Option (List Char)
  | '\n' :: rest => some rest
  | '\r' :: '\n' :: rest => some rest
  | _ => none

def endLine? (cs : List Char) : Option (List Char) :=
  let rest := match skipBlanks cs with
    | '#' :: rest => rest.dropWhile isPlain
    | rest => rest
  if rest = [] then some [] else afterNewline? rest

/-- What follows blanks, comments and line ends; a comment has to end with its line. `fuel` bounds the
number of lines. -/
def skipLines? : (fuel : Nat) → List Char → Option (List Char)
  | 0, _ => none
  | fuel + 1, cs => match skipBlanks cs with
    | '#' :: rest => (afterNewline? (rest.dropWhile isPlain)).bind (skipLines? fuel)
    | '\n' :: rest => skipLines? fuel rest
    | '\r' :: rest => match rest with
      | '\n' :: rest => skipLines? fuel rest
      | _ => none
    | rest => some rest

def simpleEscape? : Char → Option Char
  | 'b' => some '\x08'
  | 'f' => some '\x0c'
  | 'n' => some '\n'
  | 'r' => some '\r'
  | 't' => some '\t'
  | '"' => some '"'
  | '\\' => some '\\'
  | _ => none

def readCode (width : Nat) (cs : List Char) : Option (Char × List Char) :=
  if width ≤ cs.length then
    ((Text.hexNumber? (cs.take width)).bind Text.charOfCode?).map fun c => (c, cs.drop width)
  else none

def readEscape : List Char → Option (Char × List Char)
  | [] => none
  | 'u' :: rest => readCode 4 rest
  | 'U' :: rest => readCode 8 rest
  | c :: rest => (simpleEscape? c).map fun c => (c, rest)

/-- A string up to its closing quote; with `escapes` a backslash starts an escape. Every step reads a
character, so the length is fuel enough. -/
def readQuoted (quote : Char) (escapes : Bool) : (fuel : Nat) → List Char →
    Option (List Char × List Char)
  | 0, _ | _, [] => none
  | fuel + 1, c :: cs =>
    if c = quote then some ([], cs)
    else if escapes && c = '\\' then do
      let (c, rest) ← readEscape cs
      let (body, rest) ← readQuoted quote escapes fuel rest
      return (c :: body, rest)
    else if isPlain c then
      (readQuoted quote escapes fuel cs).map fun (body, rest) => (c :: body, rest)
    else none

def afterFold? (cs : List Char) : Option (List Char) :=
  (afterNewline? (skipBlanks cs)).bind fun rest => skipFold (rest.length + 1) rest
where
  skipFold : Nat → List Char → Option (List Char)
    | 0, _ => none
    | fuel + 1, cs => match afterNewline? (skipBlanks cs) with
      | some rest => skipFold fuel rest
      | none => some (skipBlanks cs)

/-- A string of several lines up to its three closing quotes, in front of which up to two more stand
for themselves. Line ends are read as line feeds. -/
def readLong (quote : Char) (escapes : Bool) : (fuel : Nat) → List Char →
    Option (List Char × List Char)
  | 0, _ | _, [] => none
  | fuel + 1, c :: cs =>
    if c = quote then
      match (c :: cs).takeWhile (· = quote), (c :: cs).dropWhile (· = quote) with
      | [_, _, _], rest => some ([], rest)
      | [_, _, _, _], rest => some ([quote], rest)
      | [_, _, _, _, _], rest => some ([quote, quote], rest)
      | quotes, rest =>
        if quotes.length < 3 then
          (readLong quote escapes fuel rest).map fun (body, rest) => (quotes ++ body, rest)
        else none
    else if escapes && c = '\\' then
      match afterFold? cs with
      | some rest => readLong quote escapes fuel rest
      | none => do
        let (c, rest) ← readEscape cs
        let (body, rest) ← readLong quote escapes fuel rest
        return (c :: body, rest)
    else match afterNewline? (c :: cs) with
      | some rest => (readLong quote escapes fuel rest).map fun (body, rest) => ('\n' :: body, rest)
      | none =>
        if isPlain c then
          (readLong quote escapes fuel cs).map fun (body, rest) => (c :: body, rest)
        else none

def readLongBody (quote : Char) (escapes : Bool) (cs : List Char) :
    Option (List Char × List Char) :=
  let body := (afterNewline? cs).getD cs
  readLong quote escapes (body.length + 1) body

def readShortString? : List Char → Option (String × List Char)
  | '"' :: rest => (readQuoted '"' true (rest.length + 1) rest).map fun (s, r) => (String.ofList s, r)
  | '\'' :: rest =>
    (readQuoted '\'' false (rest.length + 1) rest).map fun (s, r) => (String.ofList s, r)
  | _ => none

def readString? : List Char → Option (String × List Char)
  | '"' :: '"' :: '"' :: rest => (readLongBody '"' true rest).map fun (s, r) => (String.ofList s, r)
  | '\'' :: '\'' :: '\'' :: rest =>
    (readLongBody '\'' false rest).map fun (s, r) => (String.ofList s, r)
  | cs => readShortString? cs

def isBareKey (c : Char) : Bool := c.isAlphanum || c = '-' || c = '_'

def readSimpleKey (cs : List Char) : Option (String × List Char) :=
  match cs with
  | '"' :: _ | '\'' :: _ => readShortString? cs
  | _ =>
    let name := cs.takeWhile isBareKey
    if name = [] then none else some (String.ofList name, cs.drop name.length)

def readKeyParts : (fuel : Nat) → List Char → Option (List String × List Char)
  | 0, _ => none
  | fuel + 1, cs => do
    let (key, rest) ← readSimpleKey (skipBlanks cs)
    match skipBlanks rest with
    | '.' :: rest =>
      let (keys, rest) ← readKeyParts fuel rest
      return (key :: keys, rest)
    | rest => return ([key], rest)

def readKey (cs : List Char) : Option (List String × String × List Char) := do
  let (keys, rest) ← readKeyParts (cs.length + 1) cs
  if keys.length < nestingLimit then return (keys.dropLast, ← keys.getLast?, rest) else none

end EdgeAlert.Toml
