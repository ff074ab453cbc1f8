/-!
# Sets of characters

A set of characters as ranges of code points, in ascending order and with a gap between any two. The
code points of surrogates may lie in a range, since no character has one.
-/

namespace EdgeAlert

structure CharSet where
  ranges : List (Nat × Nat)
  deriving DecidableEq, Repr

namespace CharSet

def lastCode : Nat := 0x10FFFF

def containsCode (s : CharSet) (n : Nat) : Bool := s.ranges.any fun r => r.1 ≤ n && n ≤ r.2

def contains (s : CharSet) (c : Char) : Bool := s.containsCode c.toNat

/-- The ranges from `lo` to `hi` on, joined with those of `rest` that they touch. -/
def joinFrom (lo hi : Nat) : List (Nat × Nat) → List (Nat × Nat)
  | [] => [(lo, hi)]
  | (a, b) :: rest =>
    if a ≤ hi + 1 then joinFrom lo (max hi b) rest else (lo, hi) :: joinFrom a b rest

def join : List (Nat × Nat) → List (Nat × Nat)
  | [] => []
  | (lo, hi) :: rest => joinFrom lo hi rest

def ofRanges (ranges : List (Nat × Nat)) : CharSet :=
  ⟨join ((ranges.filter fun r => r.1 ≤ r.2).mergeSort fun r s => r.1 ≤ s.1)⟩

def empty : CharSet := ⟨[]⟩

def all : CharSet := ⟨[(0, lastCode)]⟩

def range (lo hi : Nat) : CharSet := ofRanges [(lo, hi)]

def single (c : Char) : CharSet := ⟨[(c.toNat, c.toNat)]⟩

def union (s t : CharSet) : CharSet := ofRanges (s.ranges ++ t.ranges)

def gapsFrom (next : Nat) : List (Nat × Nat) → List (Nat × Nat)
  | [] => if next ≤ lastCode then [(next, lastCode)] else []
  | (lo, hi) :: rest =>
    if next < lo then (next, lo - 1) :: gapsFrom (hi + 1) rest else gapsFrom (hi + 1) rest

def complement (s : CharSet) : CharSet := ⟨gapsFrom 0 s.ranges⟩

def inter (s t : CharSet) : CharSet := (s.complement.union t.complement).complement

def diff (s t : CharSet) : CharSet := s.inter t.complement

def symmDiff (s t : CharSet) : CharSet := (s.union t).diff (s.inter t)

def unions (sets : List CharSet) : CharSet := ofRanges (sets.flatMap ranges)

def negateIf (negated : Bool) (s : CharSet) : CharSet := if negated then s.complement else s

def isAscii (s : CharSet) : Bool := s.ranges.all fun r => r.2 < 0x80

def single? (s : CharSet) : Option Char :=
  match s.ranges with
  | [(lo, hi)] => if lo = hi then some (Char.ofNat lo) else none
  | _ => none

end CharSet
end EdgeAlert
