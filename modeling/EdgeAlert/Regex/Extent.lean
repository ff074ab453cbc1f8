import EdgeAlert.Power
import EdgeAlert.Regex.Expr

/-!
# Extent of regular expressions

An expression whose automaton would take too many bytes is refused, so that a short pattern cannot ask
for unbounded memory. The extent here is an estimate of what a regex engine holds against its limit. Bounded
repetitions count as so many copies, and a set of characters as the byte ranges of its UTF-8 encoding. An
engine shares a trie among the literals of an alternation, which here count one by one, and it also limits
the automaton that runs backwards, which is left out here. So near the limit the two can differ.
-/

namespace EdgeAlert.Regex

abbrev ByteRanges := List (Nat × Nat)

def anyContinuation (places : Nat) : ByteRanges := List.replicate places (0x80, 0xBF)

/-- The values from `lo` to `hi` in a leading part, based on `base`, and `places` six-bit continuation
bytes, as ranges of bytes. -/
def byteRanges (base lo hi : Nat) : (places : Nat) → List ByteRanges
  | 0 => [[(base + lo, base + hi)]]
  | places + 1 =>
    let unit := 64 ^ (places + 1)
    let first := lo / unit
    let last := hi / unit
    if first = last then
      (byteRanges 0x80 (lo % unit) (hi % unit) places).map ((base + first, base + first) :: ·)
    else
      let low := if lo % unit = 0 then []
        else (byteRanges 0x80 (lo % unit) (unit - 1) places).map ((base + first, base + first) :: ·)
      let high := if hi % unit = unit - 1 then []
        else (byteRanges 0x80 0 (hi % unit) places).map ((base + last, base + last) :: ·)
      let next := if lo % unit = 0 then first else first + 1
      let stop := if hi % unit = unit - 1 then last + 1 else last
      let middle := if next < stop then
        [(base + next, base + stop - 1) :: anyContinuation (places + 1)] else []
      low ++ middle ++ high

/-- The spans of code points whose encodings have one length: their ends, the base of the leading byte
and the number of continuation bytes. -/
def encodings : List (Nat × Nat × Nat × Nat) :=
  [(0, 0x7F, 0, 0), (0x80, 0x7FF, 0xC0, 1), (0x800, 0xD7FF, 0xE0, 2), (0xE000, 0xFFFF, 0xE0, 2),
    (0x10000, 0x10FFFF, 0xF0, 3)]

def encodedRanges (s : CharSet) : List ByteRanges :=
  s.ranges.flatMap fun (lo, hi) => encodings.flatMap fun (first, last, base, places) =>
    let lo := max lo first
    let hi := min hi last
    if lo ≤ hi then byteRanges base lo hi places else []

def commonLead : ByteRanges → ByteRanges → Nat
  | a :: as, b :: bs => if a = b then commonLead as bs + 1 else 0
  | _, _ => 0

/-- The edges of the tree that ascending lists of ranges make, after the list before them. -/
def treeEdges (before : ByteRanges) : List ByteRanges → Nat
  | [] => 0
  | ranges :: rest => ranges.length - commonLead before ranges + treeEdges ranges rest

def stateBytes : Nat := 32

def transitionBytes : Nat := 8

def branchBytes : Nat := 4

def setExtent (s : CharSet) : Nat :=
  match s.single? with
  | some c => stateBytes * c.utf8Size
  | none =>
    if s.isAscii then 2 * stateBytes + transitionBytes * s.ranges.length
    else
      let encoded := encodedRanges s
      2 * stateBytes + stateBytes * treeEdges [] encoded + branchBytes * encoded.length

namespace Expr

def mustConsume : Expr → Bool
  | .empty | .look _ => false
  | .chars set => set ≠ .empty
  | .capture body => body.mustConsume
  | .seq first second => first.mustConsume || second.mustConsume
  | .alt left right => left.mustConsume && right.mustConsume
  | .repeated body min _ => min ≠ 0 && body.mustConsume

def choiceBytes : Nat := stateBytes + 2 * branchBytes

def branchExtent (extent : Nat) : Expr → Nat
  | .alt _ _ => extent - 2 * stateBytes
  | .empty | .chars _ | .look _ | .capture _ | .seq _ _ | .repeated _ _ _ => extent + branchBytes

/-- About how many bytes the automaton of an expression takes. -/
def extent : Expr → Nat
  | .empty | .look _ => stateBytes
  | .chars set => setExtent set
  | .capture body => 2 * stateBytes + body.extent
  | .seq first second => first.extent + second.extent
  | .alt left right =>
    2 * stateBytes + branchExtent left.extent left + branchExtent right.extent right
  | .repeated body min none =>
    if 0 < min then min * body.extent + choiceBytes
    else if body.mustConsume then body.extent + choiceBytes
    else body.extent + 2 * choiceBytes + stateBytes
  | .repeated body min (some max) =>
    if min = max then min * body.extent
    else
      let first := if min = 0 ∧ max ≠ 1 then stateBytes else min * body.extent
      first + stateBytes + (max - min) * (body.extent + choiceBytes)

/-- The bytes of the states that every automaton has: its start, the ends of its match and a state for
having matched. -/
def frameExtent : Nat := 4 * stateBytes

def extentLimit : Nat := 10 * 1024 * 1024

/-- The automaton of the expression is small enough, by the estimate. -/
def fits (e : Expr) : Bool := frameExtent + e.extent ≤ extentLimit

end Expr
end EdgeAlert.Regex
