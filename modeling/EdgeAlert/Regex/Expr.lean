import EdgeAlert.Regex.Syntax

/-!
# Regular expressions

What a regular expression means once its flags have been applied: sets of characters, conditions on
places, and ways of putting expressions together. `Expr.Spans` says which stretches of a text an
expression matches.
-/

namespace EdgeAlert.Regex

inductive Look where
  | textStart
  | textEnd
  | lineStart (crlf : Bool)
  | lineEnd (crlf : Bool)
  | word (edge : WordEdge) (letters : CharSet)
  deriving DecidableEq

inductive Expr where
  | empty
  | chars (set : CharSet)
  | look (condition : Look)
  | capture (body : Expr)
  | seq (first second : Expr)
  | alt (left right : Expr)
  | repeated (body : Expr) (min : Nat) (max : Option Nat)

def WordEdge.holds (before after : Bool) : WordEdge → Bool
  | .boundary => before != after
  | .noBoundary => before == after
  | .start => !before && after
  | .stop => before && !after
  | .startHalf => !before
  | .stopHalf => !after

def Look.holds (before after : Option Char) : Look → Bool
  | .textStart => before = none
  | .textEnd => after = none
  | .lineStart false => before = none || before = some '\n'
  | .lineStart true =>
    before = none || before = some '\n' || (before = some '\r' && after ≠ some '\n')
  | .lineEnd false => after = none || after = some '\n'
  | .lineEnd true =>
    after = none || after = some '\r' || (after = some '\n' && before ≠ some '\r')
  | .word edge letters => edge.holds (before.any letters.contains) (after.any letters.contains)

def charBefore (text : List Char) : Nat → Option Char
  | 0 => none
  | i + 1 => text[i]?

namespace Expr

mutual

/-- The expression matches the stretch of the text between two places. -/
inductive Spans (text : List Char) : Expr → Nat → Nat → Prop
  | empty (i : Nat) : i ≤ text.length → Spans text .empty i i
  | chars (set : CharSet) (i : Nat) (c : Char) :
      text[i]? = some c → set.contains c → Spans text (.chars set) i (i + 1)
  | look (condition : Look) (i : Nat) :
      i ≤ text.length → condition.holds (charBefore text i) text[i]? →
      Spans text (.look condition) i i
  | capture (body : Expr) (i j : Nat) : Spans text body i j → Spans text (.capture body) i j
  | seq (first second : Expr) (i j k : Nat) :
      Spans text first i j → Spans text second j k → Spans text (.seq first second) i k
  | left (left right : Expr) (i j : Nat) : Spans text left i j → Spans text (.alt left right) i j
  | right (left right : Expr) (i j : Nat) : Spans text right i j → Spans text (.alt left right) i j
  | repeated (body : Expr) (min : Nat) (max : Option Nat) (count i j : Nat) :
      min ≤ count → (∀ m, max = some m → count ≤ m) → SpansTimes text body count i j →
      Spans text (.repeated body min max) i j

inductive SpansTimes (text : List Char) : Expr → Nat → Nat → Nat → Prop
  | zero (body : Expr) (i : Nat) : i ≤ text.length → SpansTimes text body 0 i i
  | succ (body : Expr) (count i j k : Nat) :
      Spans text body i j → SpansTimes text body count j k → SpansTimes text body (count + 1) i k

end

def seqOf : List Expr → Expr
  | [] => .empty
  | .empty :: rest => seqOf rest
  | e :: rest => match seqOf rest with
    | .empty => e
    | tail => .seq e tail

def set? : Expr → Option CharSet
  | .chars set => some set
  | .empty | .look _ | .capture _ | .seq _ _ | .alt _ _ | .repeated _ _ _ => none

def branches : Expr → List Expr
  | .alt left right => left.branches ++ right.branches
  | e => [e]

def altOf : List Expr → Expr
  | [] => .chars .empty
  | [e] => e
  | e :: rest => .alt e (altOf rest)

/-- Alternatives in order, as a single set if each of them is a set of characters. -/
def choiceOf (es : List Expr) : Expr :=
  let es := es.flatMap branches
  match es.mapM set? with
  | some sets => .chars (.unions sets)
  | none => altOf es

def canConsume : Expr → Bool
  | .empty | .look _ => false
  | .chars _ => true
  | .capture body | .repeated body _ _ => body.canConsume
  | .seq a b | .alt a b => a.canConsume || b.canConsume

/-- Repetition of an expression. Where it cannot take a character, once is as good as often. -/
def repetition (body : Expr) (min : Nat) (max : Option Nat) : Expr :=
  let (min, max) :=
    if body.canConsume then (min, max) else (Nat.min min 1, some ((max.map (Nat.min · 1)).getD 1))
  if min = 0 ∧ max = some 0 then .empty
  else if min = 1 ∧ max = some 1 then body
  else .repeated body min max

end Expr
end EdgeAlert.Regex
