import EdgeAlert.Decimal.Integer
import EdgeAlert.Regex.Syntax
import EdgeAlert.Text.Blank
import EdgeAlert.Text.Fields
import EdgeAlert.Text.Hex
import EdgeAlert.Unicode.Properties

/-!
# Escapes in regular expressions

Reading what stands after a backslash: escaped characters, characters by number, classes with a
letter, Unicode properties and assertions. Where `spaced` is true, blanks and comments between the
parts of an expression do not count.
-/

namespace EdgeAlert.Regex

def skipBlanks (inComment : Bool) : List Char → List Char
  | [] => []
  | c :: cs =>
    if inComment then skipBlanks (c ≠ '\n') cs
    else if Text.isBlank c then skipBlanks false cs
    else if c = '#' then skipBlanks true cs
    else c :: cs

def skip (spaced : Bool) (cs : List Char) : List Char := if spaced then skipBlanks false cs else cs

def readBraced (spaced inComment : Bool) : List Char → Option (List Char × List Char)
  | [] => none
  | c :: cs =>
    if inComment then readBraced spaced (c ≠ '\n') cs
    else if spaced && Text.isBlank c then readBraced spaced false cs
    else if spaced && c = '#' then readBraced spaced true cs
    else if c = '}' then some ([], cs)
    else (readBraced spaced false cs).map fun (body, rest) => (c :: body, rest)

def takeCounted (spaced : Bool) : Nat → List Char → Option (List Char × List Char)
  | 0, cs => some ([], cs)
  | n + 1, cs => match skip spaced cs with
    | [] => none
    | c :: cs => (takeCounted spaced n cs).map fun (body, rest) => (c :: body, rest)

def readCode (spaced : Bool) (width : Nat) (cs : List Char) : Option (Literal × List Char) := do
  match skip spaced cs with
  | '{' :: rest =>
    let (body, rest) ← readBraced spaced false rest
    return ({ char := ← Text.charOfCode? (← Text.hexNumber? body) }, rest)
  | rest =>
    let (body, rest) ← takeCounted spaced width rest
    return ({ char := ← Text.charOfCode? (← Text.hexNumber? body), isByte := width = 2 }, rest)

def splitAt? (mark : List Char) : List Char → Option (List Char × List Char)
  | [] => none
  | c :: cs => match Text.after? mark (c :: cs) with
    | some rest => some ([], rest)
    | none => (splitAt? mark cs).map fun (before, rest) => (c :: before, rest)

def propertySet? (body : List Char) : Option CharSet :=
  match (splitAt? "!=".toList body).or ((splitAt? [':'] body).or (splitAt? ['='] body)) with
  | some (property, value) => Unicode.valued? property value
  | none => Unicode.named? body

def readProperty (spaced : Bool) (cs : List Char) : Option (CharSet × List Char) := do
  match skip spaced cs with
  | [] | '\\' :: _ => none
  | '{' :: rest =>
    let (body, rest) ← readBraced spaced false rest
    return (← propertySet? body, rest)
  | c :: rest => return (← Unicode.named? [c], rest)

def wordEdge? (name : String) : Option WordEdge :=
  match name with
  | "start" => some .start
  | "end" => some .stop
  | "start-half" => some .startHalf
  | "end-half" => some .stopHalf
  | _ => none

def isEdgeLetter (c : Char) : Bool := c.isAlpha || c = '-'

/-- The assertion after `\b`. Braces with a name belong to it; braces with anything else are left to
be a repetition. -/
def readBoundary (spaced : Bool) : List Char → Option (WordEdge × List Char)
  | '{' :: rest => match skip spaced rest with
    | [] => none
    | c :: cs =>
      if isEdgeLetter c then do
        let (body, rest) ← readBraced spaced false (c :: cs)
        return (← wordEdge? (String.ofList body), rest)
      else some (.boundary, '{' :: rest)
  | rest => some (.boundary, rest)

/-- A character that may be escaped to stand for itself: of ASCII, and neither a letter nor a digit
nor an angle bracket. -/
def isEscapable (c : Char) : Bool := c.toNat < 0x80 && !c.isAlphanum && c ≠ '<' && c ≠ '>'

def letterClass? : Char → Option (LetterClass × Bool)
  | 'd' => some (.digit, false)
  | 'D' => some (.digit, true)
  | 's' => some (.space, false)
  | 'S' => some (.space, true)
  | 'w' => some (.word, false)
  | 'W' => some (.word, true)
  | _ => none

def letterChar? : Char → Option Char
  | 'a' => some '\x07'
  | 'f' => some '\x0c'
  | 't' => some '\t'
  | 'n' => some '\n'
  | 'r' => some '\r'
  | 'v' => some '\x0b'
  | _ => none

def letterAssertion? : Char → Option Assertion
  | 'A' => some .textStart
  | 'z' => some .textEnd
  | 'B' => some (.word .noBoundary)
  | '<' => some (.word .start)
  | '>' => some (.word .stop)
  | _ => none

def readEscape (spaced : Bool) : List Char → Option (Atom × List Char)
  | [] => none
  | 'x' :: rest => (readCode spaced 2 rest).map fun (l, rest) => (.literal l, rest)
  | 'u' :: rest => (readCode spaced 4 rest).map fun (l, rest) => (.literal l, rest)
  | 'U' :: rest => (readCode spaced 8 rest).map fun (l, rest) => (.literal l, rest)
  | 'p' :: rest => (readProperty spaced rest).map fun (s, rest) => (.named (.property s) false, rest)
  | 'P' :: rest => (readProperty spaced rest).map fun (s, rest) => (.named (.property s) true, rest)
  | 'b' :: rest => (readBoundary spaced rest).map fun (e, rest) => (.assertion (.word e), rest)
  | c :: rest =>
    if isEscapable c then some (.literal { char := c }, rest)
    else match letterClass? c, letterChar? c, letterAssertion? c with
      | some (cls, negated), _, _ => some (.named (.letter cls) negated, rest)
      | none, some l, _ => some (.literal { char := l }, rest)
      | none, none, some a => some (.assertion a, rest)
      | none, none, none => none

end EdgeAlert.Regex
