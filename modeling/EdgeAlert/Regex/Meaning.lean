import EdgeAlert.Regex.Expr
import EdgeAlert.Unicode.Properties

/-!
# Meaning of the syntax

The expression that a tree stands for under its flags. Without the Unicode flag only what lies in
ASCII can be said, so that a match never cuts a character in two; a tree that says more is refused.
-/

namespace EdgeAlert.Regex

structure Flags where
  caseless : Bool := false
  multiline : Bool := false
  dotAll : Bool := false
  unicode : Bool := true
  crlf : Bool := false
  deriving DecidableEq

def Flags.change (flags : Flags) (change : FlagChange) : Flags where
  caseless := change.apply .caseless flags.caseless
  multiline := change.apply .multiline flags.multiline
  dotAll := change.apply .dotAll flags.dotAll
  unicode := change.apply .unicode flags.unicode
  crlf := change.apply .crlf flags.crlf

def foldAscii (s : CharSet) : CharSet :=
  let lower := s.inter (.range 'a'.toNat 'z'.toNat)
  let upper := s.inter (.range 'A'.toNat 'Z'.toNat)
  .ofRanges (s.ranges ++ lower.ranges.map (fun r => (r.1 - 32, r.2 - 32)) ++
    upper.ranges.map fun r => (r.1 + 32, r.2 + 32))

namespace Flags

def fold (flags : Flags) (s : CharSet) : CharSet :=
  if flags.caseless then if flags.unicode then Unicode.foldCase s else foldAscii s else s

def admit? (flags : Flags) (s : CharSet) : Option CharSet :=
  if flags.unicode || s.isAscii then some s else none

end Flags

def LetterClass.set (unicode : Bool) : LetterClass → CharSet
  | .digit => if unicode then Unicode.digits else .range '0'.toNat '9'.toNat
  | .space => if unicode then Unicode.spaces else .ofRanges [(9, 13), (32, 32)]
  | .word =>
    if unicode then Unicode.wordCharacters
    else .ofRanges [('0'.toNat, '9'.toNat), ('A'.toNat, 'Z'.toNat), ('_'.toNat, '_'.toNat),
      ('a'.toNat, 'z'.toNat)]

/-- The characters of a class with a name. Classes with a letter are closed under case as they are;
negation comes after case. -/
def NamedClass.set? (flags : Flags) (cls : NamedClass) (negated : Bool) : Option CharSet :=
  let positive := match cls with
    | .letter cls => some (cls.set flags.unicode)
    | .property s => if flags.unicode then some (flags.fold s) else none
    | .ascii s => some (flags.fold s)
  positive.bind fun s => flags.admit? (s.negateIf negated)

def Literal.char? (flags : Flags) (l : Literal) : Option Char :=
  if flags.unicode || !l.isByte || l.char.toNat < 0x80 then some l.char else none

def Literal.memberChar? (flags : Flags) (l : Literal) : Option Char :=
  if flags.unicode || l.char.toNat < 0x80 then some l.char else none

def SetOperator.combine (left right : CharSet) : SetOperator → CharSet
  | .intersection => left.inter right
  | .difference => left.diff right
  | .symmetricDifference => left.symmDiff right

mutual

def BracketSet.set? (flags : Flags) : BracketSet → Option CharSet
  | .literal l => (l.memberChar? flags).map CharSet.single
  | .range first last => do
    return .range (← first.memberChar? flags).toNat (← last.memberChar? flags).toNat
  | .named cls negated => cls.set? flags negated
  | .nested negated inner =>
    (inner.set? flags).bind fun s => flags.admit? ((flags.fold s).negateIf negated)
  | .union items => (setsOfItems? flags items).map CharSet.unions
  | .combined operator left right => do
    return operator.combine (flags.fold (← left.set? flags)) (flags.fold (← right.set? flags))

def setsOfItems? (flags : Flags) : List BracketSet → Option (List CharSet)
  | [] => some []
  | item :: items => do return (← item.set? flags) :: (← setsOfItems? flags items)

end

def Assertion.look (flags : Flags) : Assertion → Look
  | .textStart => .textStart
  | .textEnd => .textEnd
  | .lineStart => if flags.multiline then .lineStart flags.crlf else .textStart
  | .lineEnd => if flags.multiline then .lineEnd flags.crlf else .textEnd
  | .word edge => .word edge (LetterClass.word.set flags.unicode)

def dotSet (flags : Flags) : CharSet :=
  if flags.dotAll then .all
  else if flags.crlf then ((CharSet.single '\n').union (.single '\r')).complement
  else (CharSet.single '\n').complement

def Atom.expr? (flags : Flags) : Atom → Option Expr
  | .literal l => (l.char? flags).map fun c => .chars (flags.fold (.single c))
  | .dot => if flags.unicode then some (.chars (dotSet flags)) else none
  | .assertion a => some (.look (a.look flags))
  | .named cls negated => (cls.set? flags negated).map .chars

mutual

def Syntax.expr? (flags : Flags) : Syntax → Option (Expr × Flags)
  | .atom a => (a.expr? flags).map fun e => (e, flags)
  | .bracket negated inner =>
    ((inner.set? flags).bind fun s => flags.admit? ((flags.fold s).negateIf negated)).map fun s =>
      (.chars s, flags)
  | .repeated body min max =>
    (body.expr? flags).map fun (e, flags) => (e.repetition min max, flags)
  | .group (.capture _) body => (body.expr? flags).map fun (e, _) => (.capture e, flags)
  | .group (.flags change) body =>
    (body.expr? (flags.change change)).map fun (e, _) => (e, flags)
  | .flags change => some (.empty, flags.change change)
  | .concat items => (exprsOfItems? flags items).map fun (es, flags) => (.seqOf es, flags)
  | .alternation branches =>
    (exprsOfItems? flags branches).map fun (es, flags) => (.choiceOf es, flags)

def exprsOfItems? (flags : Flags) : List Syntax → Option (List Expr × Flags)
  | [] => some ([], flags)
  | item :: items => do
    let (e, flags) ← item.expr? flags
    let (es, flags) ← exprsOfItems? flags items
    return (e :: es, flags)

end

end EdgeAlert.Regex
