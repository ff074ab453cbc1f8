import EdgeAlert.Regex.Escape

/-!
# Brackets in regular expressions

Reading a class in brackets: characters, ranges, classes with names, further brackets, and the set
operators `&&`, `--` and `~~`, which associate to the left.
-/

namespace EdgeAlert.Regex

def asciiClass? (name : String) : Option CharSet :=
  let set (ranges : List (Char × Char)) : Option CharSet :=
    some (.ofRanges (ranges.map fun r => (r.1.toNat, r.2.toNat)))
  match name with
  | "alnum" => set [('0', '9'), ('A', 'Z'), ('a', 'z')]
  | "alpha" => set [('A', 'Z'), ('a', 'z')]
  | "ascii" => set [('\x00', '\x7f')]
  | "blank" => set [('\t', '\t'), (' ', ' ')]
  | "cntrl" => set [('\x00', '\x1f'), ('\x7f', '\x7f')]
  | "digit" => set [('0', '9')]
  | "graph" => set [('!', '~')]
  | "lower" => set [('a', 'z')]
  | "print" => set [(' ', '~')]
  | "punct" => set [('!', '/'), (':', '@'), ('[', '\x60'), ('\x7b', '~')]
  | "space" => set [('\t', '\r'), (' ', ' ')]
  | "upper" => set [('A', 'Z')]
  | "word" => set [('0', '9'), ('A', 'Z'), ('_', '_'), ('a', 'z')]
  | "xdigit" => set [('0', '9'), ('A', 'F'), ('a', 'f')]
  | _ => none

def readAsciiClass : List Char → Option (BracketSet × List Char)
  | ':' :: rest =>
    let (negated, rest) := match rest with
      | '^' :: rest => (true, rest)
      | rest => (false, rest)
    let name := rest.takeWhile (· ≠ ':')
    match rest.drop name.length with
    | ':' :: ']' :: rest =>
      (asciiClass? (String.ofList name)).map fun set => (.named (.ascii set) negated, rest)
    | _ => none
  | _ => none

def Atom.toBracketSet? : Atom → Option BracketSet
  | .literal l => some (.literal l)
  | .named cls negated => some (.named cls negated)
  | .dot | .assertion _ => none

def Atom.toLiteral? : Atom → Option Literal
  | .literal l => some l
  | .named _ _ | .dot | .assertion _ => none

def readMember (spaced : Bool) : List Char → Option (Atom × List Char)
  | [] => none
  | '\\' :: rest => readEscape spaced rest
  | c :: rest => some (.literal { char := c }, rest)

/-- The character that decides whether a dash before it makes a range. The mark of a comment is passed
over here, and its text is not. -/
def afterDash (spaced : Bool) (cs : List Char) : Option Char :=
  if spaced then
    match cs.dropWhile Text.isBlank with
    | '#' :: rest => (rest.dropWhile Text.isBlank).head?
    | rest => rest.head?
  else cs.head?

def readRange (spaced : Bool) (cs : List Char) : Option (BracketSet × List Char) := do
  let (first, rest) ← readMember spaced cs
  match skip spaced rest with
  | [] => none
  | '-' :: rest =>
    let next := afterDash spaced rest
    if next = some ']' ∨ next = some '-' then return (← first.toBracketSet?, '-' :: rest)
    else
      let (last, rest) ← readMember spaced (skip spaced rest)
      let first ← first.toLiteral?
      let last ← last.toLiteral?
      if first.char ≤ last.char then return (.range first last, rest) else none
  | rest => return (← first.toBracketSet?, rest)

def readDashes (spaced : Bool) : (fuel : Nat) → List Char → List BracketSet × List Char
  | 0, cs => ([], cs)
  | fuel + 1, cs => match skip spaced cs with
    | '-' :: rest =>
      let (dashes, rest) := readDashes spaced fuel rest
      (.literal { char := '-' } :: dashes, rest)
    | rest => ([], rest)

/-- The start of a bracket: whether it is negated, and the dashes or the closing bracket that stand
for themselves there. These are all alike, so their order does not matter. -/
def readOpening (spaced : Bool) (cs : List Char) : Bool × List BracketSet × List Char :=
  let (negated, rest) := match skip spaced cs with
    | '^' :: rest => (true, rest)
    | rest => (false, rest)
  match readDashes spaced rest.length rest with
  | ([], ']' :: rest) => (negated, [.literal { char := ']' }], rest)
  | (dashes, rest) => (negated, dashes, rest)

def combine (left : Option (SetOperator × BracketSet)) (items : List BracketSet) : BracketSet :=
  let right := BracketSet.ofItems items.reverse
  match left with
  | some (operator, left) => .combined operator left right
  | none => right

/-- The inside of a bracket up to its end. `left` is what an operator has on its left, and `items` are
those read since, the last one first. Every step reads a character, so the length is fuel enough. -/
def readSet (spaced : Bool) : (fuel : Nat) → (left : Option (SetOperator × BracketSet)) →
    (items : List BracketSet) → List Char → Option (BracketSet × List Char)
  | 0, _, _, _ => none
  | fuel + 1, left, items, cs => match skip spaced cs with
    | [] => none
    | ']' :: rest => some (combine left items, rest)
    | '&' :: '&' :: rest => readSet spaced fuel (some (.intersection, combine left items)) [] rest
    | '-' :: '-' :: rest => readSet spaced fuel (some (.difference, combine left items)) [] rest
    | '~' :: '~' :: rest =>
      readSet spaced fuel (some (.symmetricDifference, combine left items)) [] rest
    | '[' :: rest => match readAsciiClass rest with
      | some (item, rest) => readSet spaced fuel left (item :: items) rest
      | none =>
        let (negated, inside, rest) := readOpening spaced rest
        match readSet spaced fuel none inside rest with
        | some (inner, rest) => readSet spaced fuel left (.nested negated inner :: items) rest
        | none => none
    | rest => match readRange spaced rest with
      | some (item, rest) => readSet spaced fuel left (item :: items) rest
      | none => none

def readBracket (spaced : Bool) (cs : List Char) : Option (Syntax × List Char) :=
  let (negated, inside, rest) := readOpening spaced cs
  (readSet spaced (rest.length + 1) none inside rest).map fun (inner, rest) =>
    (.bracket negated inner, rest)

end EdgeAlert.Regex
