import EdgeAlert.Regex.Bracket

/-!
# Reading regular expressions

A reader for the grammar of regular expressions. Alternatives, groups and repetitions are read here;
escapes and brackets have readers of their own.
-/

namespace EdgeAlert.Regex

def flag? : Char → Option Flag
  | 'i' => some .caseless
  | 'm' => some .multiline
  | 's' => some .dotAll
  | 'U' => some .reluctant
  | 'u' => some .unicode
  | 'R' => some .crlf
  | 'x' => some .spaced
  | _ => none

/-- The change that flag letters spell, those after a dash being switched off. No flag comes twice. -/
def FlagChange.ofLetters? (letters : List Char) : Option FlagChange := do
  let (on, off) ← match Text.cut '-' letters with
    | [on] => some (on, [])
    | [_, []] => none
    | [on, off] => some (on, off)
    | _ => none
  let on ← on.mapM flag?
  let off ← off.mapM flag?
  if (on ++ off).Nodup then return ⟨on, off⟩ else none

def startsName (c : Char) : Bool := c = '_' || Unicode.alphabetic.contains c

def continuesName (c : Char) : Bool :=
  c = '_' || c = '.' || c = '[' || c = ']' || Unicode.alphanumeric.contains c

def isName : List Char → Bool
  | [] => false
  | c :: cs => startsName c && cs.all continuesName

def readName (cs : List Char) : Option (String × List Char) :=
  let name := cs.takeWhile (· ≠ '>')
  match cs.drop name.length with
  | [] => none
  | _ :: rest => if isName name then some (String.ofList name, rest) else none

inductive Opening where
  | change (change : FlagChange)
  | group (kind : GroupKind)
  deriving DecidableEq

def readFlags (cs : List Char) : Option (Opening × List Char) := do
  let letters := cs.takeWhile fun c => c ≠ ':' && c ≠ ')'
  let change ← FlagChange.ofLetters? letters
  match cs.drop letters.length with
  | ':' :: rest => return (.group (.flags change), rest)
  | ')' :: rest => if letters = [] then none else return (.change change, rest)
  | _ => none

/-- The start of a group after its parenthesis. Groups that look ahead or behind are refused. -/
def readGroupStart : List Char → Option (Opening × List Char)
  | '?' :: '=' :: _ | '?' :: '!' :: _ | '?' :: '<' :: '=' :: _ | '?' :: '<' :: '!' :: _ => none
  | '?' :: 'P' :: '<' :: rest | '?' :: '<' :: rest =>
    (readName rest).map fun (name, rest) => (.group (.capture (some name)), rest)
  | '?' :: rest => readFlags rest
  | rest => some (.group (.capture none), rest)

def count? (cs : List Char) : Option Nat := do
  let n ← Decimal.readNat? (Text.trim cs)
  if n < 0x100000000 then return n else none

def counts? (body : List Char) : Option (Nat × Option Nat) :=
  match splitAt? [','] body with
  | none => (count? body).map fun n => (n, some n)
  | some (min, []) => (count? min).map fun n => (n, none)
  | some (min, max) => do
    let min ← count? min
    let max ← count? max
    if min ≤ max then return (min, some max) else none

def dropReluctant : List Char → List Char
  | '?' :: rest => rest
  | rest => rest

/-- The items read so far, the last one first, with that one repeated. There has to be one, and it
cannot be a change of flags. -/
def repeatLast? (min : Nat) (max : Option Nat) : List Syntax → Option (List Syntax)
  | [] | .flags _ :: _ => none
  | item :: items => some (.repeated item min max :: items)

def close (branches items : List Syntax) : Syntax :=
  .ofBranches (.ofItems items.reverse :: branches).reverse

/-- An expression up to the end of the text or of its group. Every step reads a character, so the
length is fuel enough. -/
def readUpTo : (fuel : Nat) → (spaced : Bool) → (branches items : List Syntax) → List Char →
    Option (Syntax × List Char)
  | 0, _, _, _, _ => none
  | fuel + 1, spaced, branches, items, cs => match skip spaced cs with
    | [] => some (close branches items, [])
    | ')' :: rest => some (close branches items, ')' :: rest)
    | '|' :: rest => readUpTo fuel spaced (.ofItems items.reverse :: branches) [] rest
    | '(' :: rest => match readGroupStart (skip spaced rest) with
      | none => none
      | some (.change change, rest) =>
        readUpTo fuel (change.apply .spaced spaced) branches (.flags change :: items) rest
      | some (.group kind, rest) =>
        let inner := match kind with
          | .flags change => change.apply .spaced spaced
          | .capture _ => spaced
        match readUpTo fuel inner [] [] rest with
        | some (body, ')' :: rest) =>
          readUpTo fuel spaced branches (.group kind body :: items) rest
        | _ => none
    | '[' :: rest => match readBracket spaced rest with
      | some (item, rest) => readUpTo fuel spaced branches (item :: items) rest
      | none => none
    | '?' :: rest => match repeatLast? 0 (some 1) items with
      | some items => readUpTo fuel spaced branches items (dropReluctant rest)
      | none => none
    | '*' :: rest => match repeatLast? 0 none items with
      | some items => readUpTo fuel spaced branches items (dropReluctant rest)
      | none => none
    | '+' :: rest => match repeatLast? 1 none items with
      | some items => readUpTo fuel spaced branches items (dropReluctant rest)
      | none => none
    | '{' :: rest => match readBraced spaced false rest with
      | none => none
      | some (body, rest) => match counts? body with
        | none => none
        | some (min, max) => match repeatLast? min max items with
          | some items => readUpTo fuel spaced branches items (dropReluctant (skip spaced rest))
          | none => none
    | '\\' :: rest => match readEscape spaced rest with
      | some (a, rest) => readUpTo fuel spaced branches (.atom a :: items) rest
      | none => none
    | '.' :: rest => readUpTo fuel spaced branches (.atom .dot :: items) rest
    | '^' :: rest => readUpTo fuel spaced branches (.atom (.assertion .lineStart) :: items) rest
    | '$' :: rest => readUpTo fuel spaced branches (.atom (.assertion .lineEnd) :: items) rest
    | c :: rest => readUpTo fuel spaced branches (.atom (.literal { char := c }) :: items) rest

/-- The tree of a whole text, which has no parenthesis too many, no two groups of one name, and does
not nest too deep. -/
def Syntax.read? (text : List Char) : Option Syntax :=
  match readUpTo (text.length + 1) false [] [] text with
  | some (tree, []) =>
    if tree.groupNames.Nodup ∧ tree.depth ≤ Syntax.depthLimit then some tree else none
  | _ => none

end EdgeAlert.Regex
