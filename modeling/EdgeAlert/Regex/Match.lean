import EdgeAlert.Power
import EdgeAlert.Regex.Expr

/-!
# Matching

Finding whether an expression matches somewhere in a text. A set of places in the text is a natural
number that has the bits of these places. An expression is first laid over the text, which turns its
sets and conditions into sets of places; then it maps the places where a match may start to those
where one can end.
-/

namespace EdgeAlert.Regex

def placesOf (set : CharSet) : List Char → Nat
  | [] => 0
  | c :: cs => 2 * placesOf set cs + (set.contains c).toNat

def placesWhere (condition : Look) (before : Option Char) : List Char → Nat
  | [] => (condition.holds before none).toNat
  | c :: cs =>
    2 * placesWhere condition (some c) cs + (condition.holds before (some c)).toNat

inductive Plan where
  | stay
  | pass (places : Nat)
  | advance (places : Nat)
  | seq (first second : Plan)
  | alt (left right : Plan)
  | repeated (body : Plan) (min : Nat) (max : Option Nat)

def Expr.over (text : List Char) : Expr → Plan
  | .empty => .stay
  | .chars set => .advance (placesOf set text)
  | .look condition => .pass (placesWhere condition none text)
  | .capture body => body.over text
  | .seq first second => .seq (first.over text) (second.over text)
  | .alt left right => .alt (left.over text) (right.over text)
  | .repeated body min max => .repeated (body.over text) min max

/-- So many steps. Places that a step leaves as they are stay so, and the rest can be left out. -/
def steps (step : Nat → Nat) : Nat → Nat → Nat
  | 0, places => places
  | count + 1, places =>
    let next := step places
    if next = places then places else steps step count next

def reach (step : Nat → Nat) : Nat → Nat → Nat
  | 0, places => places
  | count + 1, places =>
    let next := places ||| step places
    if next = places then places else reach step count next

namespace Plan

/-- The places where a match can end that starts at one of the given places of a text of this length.
Without an upper bound, one more repetition than the text has characters reaches all there is. -/
def ends (length : Nat) : Plan → Nat → Nat
  | .stay, starts => starts
  | .pass places, starts => starts &&& places
  | .advance places, starts => 2 * (starts &&& places)
  | .seq first second, starts => second.ends length (first.ends length starts)
  | .alt left right, starts => left.ends length starts ||| right.ends length starts
  | .repeated body min (some max), starts =>
    reach (body.ends length) (max - min) (steps (body.ends length) min starts)
  | .repeated body min none, starts =>
    reach (body.ends length) (length + 1) (steps (body.ends length) min starts)

end Plan

def Expr.matchesWithin (text : List Char) (e : Expr) : Bool :=
  (e.over text).ends text.length (2 ^ (text.length + 1) - 1) != 0

end EdgeAlert.Regex
