import EdgeAlert.Unicode.CharSet

/-!
# Syntax of regular expressions

The tree that the grammar gives a regular expression, before flags have any effect on it. Whether a
repetition is greedy is not kept, since only whether there is a match is ever asked.
-/

namespace EdgeAlert.Regex

inductive Flag where
  | caseless
  | multiline
  | dotAll
  | reluctant
  | unicode
  | crlf
  /-- Blanks and comments in the expression do not count. -/
  | spaced
  deriving DecidableEq

structure FlagChange where
  on : List Flag
  off : List Flag
  deriving DecidableEq

def FlagChange.apply (change : FlagChange) (flag : Flag) (old : Bool) : Bool :=
  if flag ∈ change.on then true else if flag ∈ change.off then false else old

structure Literal where
  char : Char
  /-- It is spelled as the two hexadecimal digits of a byte. -/
  isByte : Bool := false
  deriving DecidableEq

inductive WordEdge where
  | boundary
  | noBoundary
  | start
  | stop
  | startHalf
  | stopHalf
  deriving DecidableEq

inductive Assertion where
  | lineStart
  | lineEnd
  | textStart
  | textEnd
  | word (edge : WordEdge)
  deriving DecidableEq

inductive LetterClass where
  | digit
  | space
  | word
  deriving DecidableEq

inductive NamedClass where
  | letter (cls : LetterClass)
  | property (set : CharSet)
  | ascii (set : CharSet)
  deriving DecidableEq

inductive Atom where
  | literal (l : Literal)
  | dot
  | assertion (a : Assertion)
  | named (cls : NamedClass) (negated : Bool)
  deriving DecidableEq

inductive SetOperator where
  | intersection
  | difference
  | symmetricDifference
  deriving DecidableEq

inductive BracketSet where
  | literal (l : Literal)
  | range (first last : Literal)
  | named (cls : NamedClass) (negated : Bool)
  | nested (negated : Bool) (inner : BracketSet)
  | union (items : List BracketSet)
  | combined (operator : SetOperator) (left right : BracketSet)

inductive GroupKind where
  | capture (name : Option String)
  | flags (change : FlagChange)
  deriving DecidableEq

inductive Syntax where
  | atom (a : Atom)
  | bracket (negated : Bool) (inner : BracketSet)
  | repeated (body : Syntax) (min : Nat) (max : Option Nat)
  | group (kind : GroupKind) (body : Syntax)
  | flags (change : FlagChange)
  | concat (items : List Syntax)
  | alternation (branches : List Syntax)

namespace BracketSet

def ofItems : List BracketSet → BracketSet
  | [item] => item
  | items => .union items

mutual

def depth : BracketSet → Nat
  | .literal _ | .range _ _ | .named _ _ => 0
  | .nested _ inner => inner.depth + 1
  | .union [] => 0
  | .union (item :: items) => max item.depth (depthOfItems items) + 1
  | .combined _ left right => max left.depth right.depth + 1

def depthOfItems : List BracketSet → Nat
  | [] => 0
  | item :: items => max item.depth (depthOfItems items)

end

end BracketSet

namespace Syntax

def ofItems : List Syntax → Syntax
  | [item] => item
  | items => .concat items

def ofBranches : List Syntax → Syntax
  | [branch] => branch
  | branches => .alternation branches

mutual

def depth : Syntax → Nat
  | .atom _ | .flags _ | .concat [] => 0
  | .bracket _ inner => inner.depth + 1
  | .repeated body _ _ => body.depth + 1
  | .group _ body => body.depth + 1
  | .concat (item :: items) => max item.depth (depthOfItems items) + 1
  | .alternation branches => depthOfItems branches + 1

def depthOfItems : List Syntax → Nat
  | [] => 0
  | item :: items => max item.depth (depthOfItems items)

end

mutual

def groupNames : Syntax → List String
  | .atom _ | .flags _ | .bracket _ _ => []
  | .repeated body _ _ => body.groupNames
  | .group (.capture (some name)) body => name :: body.groupNames
  | .group _ body => body.groupNames
  | .concat items => groupNamesOfItems items
  | .alternation branches => groupNamesOfItems branches

def groupNamesOfItems : List Syntax → List String
  | [] => []
  | item :: items => item.groupNames ++ groupNamesOfItems items

end

def depthLimit : Nat := 250

end Syntax
end EdgeAlert.Regex
