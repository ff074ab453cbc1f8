import EdgeAlert.Proofs.Regex.Groups
import EdgeAlert.Proofs.Regex.Matching
import EdgeAlert.Regex

/-!
# Bounds of repetitions

No expression that is read has a repetition whose bounds are the wrong way round, so the search agrees
with the meaning of whatever is read.
-/

namespace EdgeAlert.Regex

namespace Expr

variable {e : Expr} {es : List Expr}

theorem bounded_seqOf (bounded : ∀ e ∈ es, e.Bounded) : (seqOf es).Bounded := by
  induction es with
  | nil => trivial
  | cons e es ih =>
    have tail := ih fun e member => bounded e (List.mem_cons_of_mem _ member)
    have head := bounded e List.mem_cons_self
    unfold seqOf
    split
    · trivial
    · next same =>
      obtain ⟨-, rfl⟩ := List.cons.inj same
      exact tail
    · next same =>
      obtain ⟨rfl, rfl⟩ := List.cons.inj same
      split
      · exact head
      · exact ⟨head, tail⟩

theorem bounded_branches (bounded : e.Bounded) : ∀ b ∈ e.branches, b.Bounded := by
  induction e with
  | alt left right inLeft inRight =>
    intro b member
    rcases List.mem_append.mp member with h | h
    · exact inLeft bounded.1 b h
    · exact inRight bounded.2 b h
  | empty => simpa [branches] using bounded
  | chars set => simpa [branches] using bounded
  | look condition => simpa [branches] using bounded
  | capture body => simpa [branches] using bounded
  | seq first second => simpa [branches] using bounded
  | repeated body min max => simpa [branches] using bounded

theorem bounded_altOf (bounded : ∀ e ∈ es, e.Bounded) : (altOf es).Bounded := by
  induction es with
  | nil => trivial
  | cons e es ih =>
    have head := bounded e List.mem_cons_self
    cases es with
    | nil => exact head
    | cons d es => exact ⟨head, ih fun e member => bounded e (List.mem_cons_of_mem _ member)⟩

theorem bounded_choiceOf (bounded : ∀ e ∈ es, e.Bounded) : (choiceOf es).Bounded := by
  unfold choiceOf
  dsimp only
  split
  · trivial
  · apply bounded_altOf
    intro b member
    obtain ⟨e, inside, branch⟩ := List.mem_flatMap.mp member
    exact bounded_branches (bounded e inside) b branch

theorem bounded_repetition {min : Nat} {max : Option Nat} (bounded : e.Bounded)
    (ordered : ∀ m, max = some m → min ≤ m) : (e.repetition min max).Bounded := by
  have chosen : ∀ (min : Nat) (max : Option Nat), (∀ m, max = some m → min ≤ m) →
      (if min = 0 ∧ max = some 0 then .empty
        else if min = 1 ∧ max = some 1 then e else .repeated e min max : Expr).Bounded := by
    intro min max ordered
    split
    · trivial
    · split
      · exact bounded
      · exact ⟨bounded, ordered⟩
  unfold repetition
  by_cases consumes : e.canConsume = true
  · simp only [consumes, if_true]
    exact chosen min max ordered
  · simp only [consumes, Bool.false_eq_true, if_false]
    refine chosen _ _ fun m top => ?_
    obtain rfl := Option.some.inj top
    cases max with
    | none => exact Nat.min_le_right min 1
    | some max =>
      have lowered : Nat.min min 1 ≤ Nat.min max 1 := Nat.le_min.mpr
        ⟨Nat.le_trans (Nat.min_le_left min 1) (ordered max rfl), Nat.min_le_right min 1⟩
      exact lowered

end Expr

namespace Syntax

mutual

def Bounded : Syntax → Prop
  | .atom _ | .bracket _ _ | .flags _ => True
  | .repeated body min max => body.Bounded ∧ ∀ m, max = some m → min ≤ m
  | .group _ body => body.Bounded
  | .concat items => AllBounded items
  | .alternation branches => AllBounded branches

def AllBounded : List Syntax → Prop
  | [] => True
  | item :: items => item.Bounded ∧ AllBounded items

end

theorem allBounded_iff {items : List Syntax} : AllBounded items ↔ ∀ i ∈ items, i.Bounded := by
  induction items with
  | nil => simp [AllBounded]
  | cons item items ih => simp [AllBounded, ih]

theorem bounded_ofItems {items : List Syntax} (bounded : ∀ i ∈ items, i.Bounded) : (ofItems items).Bounded := by
  unfold ofItems
  split
  · exact bounded _ (by simp)
  · exact allBounded_iff.mpr bounded

theorem bounded_ofBranches {items : List Syntax} (bounded : ∀ i ∈ items, i.Bounded) :
    (ofBranches items).Bounded := by
  unfold ofBranches
  split
  · exact bounded _ (by simp)
  · exact allBounded_iff.mpr bounded

end Syntax

theorem bounded_close {branches items : List Syntax} (all : ∀ b ∈ branches, b.Bounded)
    (last : ∀ i ∈ items, i.Bounded) : (close branches items).Bounded := by
  have here : (Syntax.ofItems items.reverse).Bounded := Syntax.bounded_ofItems (by simpa using last)
  apply Syntax.bounded_ofBranches
  intro b member
  rcases List.mem_cons.mp (List.mem_reverse.mp member) with rfl | member
  · exact here
  · exact all b member

theorem counts?_ordered {body : List Char} {min m : Nat} (known : counts? body = some (min, some m)) : min ≤ m := by
  unfold counts? at known
  split at known
  · obtain ⟨n, -, same⟩ := Option.map_eq_some_iff.mp known
    grind
  · obtain ⟨n, -, same⟩ := Option.map_eq_some_iff.mp known
    simp at same
  · obtain ⟨n, -, known⟩ := Option.bind_eq_some_iff.mp known
    obtain ⟨n, -, known⟩ := Option.bind_eq_some_iff.mp known
    split at known
    · next ordered =>
      simp only [Option.pure_def, Option.some.injEq, Prod.mk.injEq] at known
      obtain ⟨rfl, rfl⟩ := known
      exact ordered
    · simp at known

theorem bounded_repeatLast? {min : Nat} {max : Option Nat} {items items' : List Syntax}
    (added : repeatLast? min max items = some items') (ordered : ∀ m, max = some m → min ≤ m)
    (bounded : ∀ i ∈ items, i.Bounded) : ∀ i ∈ items', i.Bounded := by
  unfold repeatLast? at added
  split at added
  · simp at added
  · simp at added
  · obtain rfl := Option.some.inj added
    intro i member
    rcases List.mem_cons.mp member with rfl | member
    · exact ⟨bounded _ List.mem_cons_self, ordered⟩
    · exact bounded i (List.mem_cons_of_mem _ member)

theorem bounded_readItem {spaced : Bool} {items items' : List Syntax} {cs rest : List Char}
    (read : readItem spaced items cs = some (items', rest)) (bounded : ∀ i ∈ items, i.Bounded) :
    ∀ i ∈ items', i.Bounded := by
  have single : ∀ (i : Syntax) (r : List Char), i.Bounded → some (i :: items, r) = some (items', rest) →
      ∀ i ∈ items', i.Bounded := by
    intro i r here same
    obtain ⟨rfl, -⟩ := Prod.mk.inj (Option.some.inj same)
    exact List.forall_mem_cons.mpr ⟨here, bounded⟩
  have repeated : ∀ (min : Nat) (max : Option Nat) (r : List Char), (∀ m, max = some m → min ≤ m) →
      (repeatLast? min max items).map (fun i => (i, r)) = some (items', rest) → ∀ i ∈ items', i.Bounded := by
    intro min max r ordered same
    obtain ⟨more, added, same⟩ := Option.map_eq_some_iff.mp same
    obtain ⟨rfl, -⟩ := Prod.mk.inj same
    exact bounded_repeatLast? added ordered bounded
  unfold readItem at read
  split at read
  · simp at read
  · obtain ⟨⟨t, rest⟩, bracket, same⟩ := Option.map_eq_some_iff.mp read
    obtain ⟨⟨set, more⟩, -, whole⟩ := Option.map_eq_some_iff.mp bracket
    obtain ⟨rfl, -⟩ := Prod.mk.inj whole
    refine single _ _ ?_ (congrArg some same)
    trivial
  · exact repeated 0 (some 1) _ (by simp) read
  · exact repeated 0 none _ (by simp) read
  · exact repeated 1 none _ (by simp) read
  · obtain ⟨⟨body, r⟩, -, read⟩ := Option.bind_eq_some_iff.mp read
    obtain ⟨⟨min, max⟩, known, read⟩ := Option.bind_eq_some_iff.mp read
    exact repeated min max _ (fun m top => counts?_ordered (top ▸ known)) read
  · obtain ⟨⟨a, rest⟩, -, same⟩ := Option.map_eq_some_iff.mp read
    refine single _ _ ?_ (congrArg some same)
    trivial
  all_goals
    refine single _ _ ?_ read
    trivial

theorem Reads.bounded {spaced : Bool} {branches items : List Syntax} {cs rest : List Char} {t : Syntax}
    (reads : Reads spaced branches items cs t rest) (all : ∀ b ∈ branches, b.Bounded)
    (last : ∀ i ∈ items, i.Bounded) : t.Bounded := by
  induction reads with
  | stop _ _ => exact bounded_close all last
  | bar _ _ ih =>
    have here := Syntax.bounded_ofItems (fun i member => last i (List.mem_reverse.mp member))
    exact ih (List.forall_mem_cons.mpr ⟨here, all⟩) (by simp)
  | change _ _ _ ih => exact ih all (List.forall_mem_cons.mpr ⟨trivial, last⟩)
  | group _ _ _ _ inside ih => exact ih all (List.forall_mem_cons.mpr ⟨inside (by simp) (by simp), last⟩)
  | item _ _ read _ ih => exact ih all (bounded_readItem read last)

/-! ### Meaning -/

theorem bounded_atom {flags : Flags} {a : Atom} {e : Expr} (means : a.expr? flags = some e) : e.Bounded := by
  cases a with
  | literal l =>
    obtain ⟨c, -, rfl⟩ := Option.map_eq_some_iff.mp means
    trivial
  | dot =>
    simp only [Atom.expr?, Option.ite_none_right_eq_some, Option.some.injEq] at means
    obtain ⟨-, rfl⟩ := means
    trivial
  | assertion a =>
    obtain rfl := Option.some.inj means
    trivial
  | named cls negated =>
    obtain ⟨set, -, rfl⟩ := Option.map_eq_some_iff.mp means
    trivial

mutual

theorem bounded_expr? {flags after : Flags} {t : Syntax} {e : Expr} (bounded : t.Bounded)
    (means : t.expr? flags = some (e, after)) : e.Bounded := by
  cases t with
  | atom a =>
    obtain ⟨e, known, same⟩ := Option.map_eq_some_iff.mp means
    obtain ⟨rfl, -⟩ := Prod.mk.inj same
    exact bounded_atom known
  | bracket negated inner =>
    obtain ⟨set, -, same⟩ := Option.map_eq_some_iff.mp means
    obtain ⟨rfl, -⟩ := Prod.mk.inj same
    trivial
  | repeated body min max =>
    obtain ⟨⟨inner, flags⟩, known, same⟩ := Option.map_eq_some_iff.mp means
    obtain ⟨rfl, -⟩ := Prod.mk.inj same
    exact Expr.bounded_repetition (bounded_expr? bounded.1 known) bounded.2
  | group kind body =>
    cases kind with
    | capture name =>
      obtain ⟨⟨inner, flags⟩, known, same⟩ := Option.map_eq_some_iff.mp means
      obtain ⟨rfl, -⟩ := Prod.mk.inj same
      have inner : inner.Bounded := bounded_expr? (t := body) bounded known
      exact inner
    | flags change =>
      obtain ⟨⟨inner, flags⟩, known, same⟩ := Option.map_eq_some_iff.mp means
      obtain ⟨rfl, -⟩ := Prod.mk.inj same
      exact bounded_expr? (t := body) bounded known
  | flags change =>
    obtain ⟨rfl, -⟩ := Prod.mk.inj (Option.some.inj means)
    trivial
  | concat items =>
    obtain ⟨⟨inner, flags⟩, known, same⟩ := Option.map_eq_some_iff.mp means
    obtain ⟨rfl, -⟩ := Prod.mk.inj same
    exact Expr.bounded_seqOf (bounded_exprsOfItems? bounded known)
  | alternation branches =>
    obtain ⟨⟨inner, flags⟩, known, same⟩ := Option.map_eq_some_iff.mp means
    obtain ⟨rfl, -⟩ := Prod.mk.inj same
    exact Expr.bounded_choiceOf (bounded_exprsOfItems? bounded known)

theorem bounded_exprsOfItems? {flags after : Flags} {items : List Syntax} {es : List Expr}
    (bounded : Syntax.AllBounded items) (means : exprsOfItems? flags items = some (es, after)) :
    ∀ e ∈ es, e.Bounded := by
  cases items with
  | nil =>
    obtain ⟨rfl, -⟩ := Prod.mk.inj (Option.some.inj means)
    simp
  | cons item items =>
    obtain ⟨⟨e, flags⟩, known, means⟩ := Option.bind_eq_some_iff.mp means
    obtain ⟨⟨es, flags⟩, rest, means⟩ := Option.bind_eq_some_iff.mp means
    obtain ⟨rfl, -⟩ := Prod.mk.inj (Option.some.inj means)
    exact List.forall_mem_cons.mpr ⟨bounded_expr? bounded.1 known, bounded_exprsOfItems? bounded.2 rest⟩

end

/-! ### Whole texts -/

section Whole

variable {text s : List Char} {t : Syntax} {r : Regex}

theorem Syntax.read?_eq_some_iff : Syntax.read? text = some t ↔
    Reads false [] [] text t [] ∧ t.groupNames.Nodup ∧ t.depth ≤ Syntax.depthLimit := by
  unfold Syntax.read?
  constructor
  · intro read
    split at read
    · next tree whole =>
      split at read
      · next fine =>
        obtain rfl := Option.some.inj read
        exact ⟨reads_of_readUpTo whole, fine⟩
      · simp at read
    · simp at read
  · rintro ⟨reads, fine⟩
    rw [reads.readUpTo (text.length + 1) (Nat.lt_succ_self _)]
    simp only [fine, and_self, if_true]

theorem read?_eq_some_iff :
    Regex.read? text = some r ↔ ∃ t after, Syntax.read? text = some t ∧ t.expr? {} = some (r.expr, after) := by
  obtain ⟨expr, fits⟩ := r
  unfold Regex.read?
  simp only [Option.bind_eq_bind, Option.bind_eq_some_iff]
  constructor
  · rintro ⟨t, read, ⟨e, after⟩, means, whole⟩
    split at whole
    · obtain rfl := congrArg Regex.expr (Option.some.inj whole)
      exact ⟨t, after, read, means⟩
    · simp at whole
  · rintro ⟨t, after, read, means⟩
    exact ⟨t, read, ⟨expr, after⟩, means, by simp [fits]⟩

/-- What is read matches somewhere in a text exactly if it spans a stretch of it. -/
theorem isMatch_iff (read : Regex.read? text = some r) :
    r.isMatch s = true ↔ ∃ i j, Expr.Spans s r.expr i j := by
  obtain ⟨t, after, tree, means⟩ := read?_eq_some_iff.mp read
  have bounded := (Syntax.read?_eq_some_iff.mp tree).1.bounded (by simp) (by simp)
  exact matchesWithin_iff (bounded_expr? bounded means)

end Whole

end EdgeAlert.Regex
