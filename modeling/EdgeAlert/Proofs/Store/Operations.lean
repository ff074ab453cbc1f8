import Mathlib.Data.Finset.Card
import Mathlib.Data.List.Chain
import Mathlib.Logic.Function.Basic
import EdgeAlert.Proofs.Store.Membership
import EdgeAlert.Proofs.Text.ByteOrder

/-!
# Operations of the store

The store as its callers see it: any sequence of calls, with what they return and what the transitions
among them emit. `refines_two_sets` says that all of it is what two sets of identities would give, one
for each severity, and that along transitions the raises and clears of an identity alternate.
-/

namespace EdgeAlert.Store

structure Transition where
  identity : String
  level : Severity
  raise : Bool
  deriving DecidableEq

inductive Operation where
  | add (identity : String) (s : Severity)
  | remove (identity : String) (s : Severity)
  | known (identity : String) (s : Severity)
  | size (s : Severity)
  | list (s : Severity)
  | transition (t : Transition)

def Operation.severity : Operation → Severity
  | .add _ s | .remove _ s | .known _ s | .size s | .list s => s
  | .transition t => t.level

inductive Answer where
  | truth (b : Bool)
  | count (n : Nat)
  | members (identities : List String)

structure Entry where
  operation : Operation
  answer : Answer
  emitted : List Transition

def perform (store : Store) : Operation → Store × Answer × List Transition
  | .add x s => ((store.add x s).1, .truth (store.add x s).2, [])
  | .remove x s => ((store.remove x s).1, .truth (store.remove x s).2, [])
  | .known x s => (store, .truth (store.known x s), [])
  | .size s => (store, .count (store.size s), [])
  | .list s => (store, .members (store.list s), [])
  | .transition t =>
    let (next, changed, emitted) := store.transitionThen t.identity t.level t.raise (· ++ [t]) []
    (next, .truth changed, emitted)

def history (store : Store) : List Operation → List Entry × Store
  | [] => ([], store)
  | operation :: rest =>
    let (next, answer, emitted) := store.perform operation
    let (entries, last) := next.history rest
    (⟨operation, answer, emitted⟩ :: entries, last)

/-! ### Two sets -/

abbrev Sets := Severity → Finset String

namespace Sets

def next (sets : Sets) : Operation → Sets
  | .add x s | .transition ⟨x, s, true⟩ => Function.update sets s (insert x (sets s))
  | .remove x s | .transition ⟨x, s, false⟩ => Function.update sets s ((sets s).erase x)
  | .known _ _ | .size _ | .list _ => sets

def changes (sets : Sets) (operation : Operation) : Bool :=
  sets.next operation operation.severity ≠ sets operation.severity

/-- What a call may return and emit, the sets being as they are before it. -/
def Gives (sets : Sets) (operation : Operation) (answer : Answer) (emitted : List Transition) : Prop :=
  match operation with
  | .add _ _ | .remove _ _ => answer = .truth (sets.changes operation) ∧ emitted = []
  | .known x s => answer = .truth (x ∈ sets s) ∧ emitted = []
  | .size s => answer = .count (sets s).card ∧ emitted = []
  | .list s =>
    ∃ identities, answer = .members identities ∧ emitted = [] ∧
      identities.Pairwise (fun a b => a.toUTF8.toList < b.toUTF8.toList) ∧
        (∀ x, x ∈ identities ↔ x ∈ sets s) ∧ identities.length = (sets s).card
  | .transition t =>
    answer = .truth (sets.changes operation) ∧ emitted = if sets.changes operation then [t] else []

/-- One after the other, calls lead from sets to others and give what the entries say. -/
inductive Records : Sets → List Entry → Sets → Prop where
  | nil {sets : Sets} : Records sets [] sets
  | cons {sets last : Sets} {entry : Entry} {rest : List Entry}
    (given : sets.Gives entry.operation entry.answer entry.emitted)
    (others : Records (sets.next entry.operation) rest last) : Records sets (entry :: rest) last

end Sets

def sets (store : Store) : Sets := fun s => (store.alerting s).toFinset

variable {store a b : Store} {x : String} {s t : Severity} {operation : Operation}

theorem mem_sets : x ∈ store.sets s ↔ store.known x s = true :=
  IdentitySet.mem_toFinset.trans known_iff.symm

theorem sets_set (identities : IdentitySet) :
    (store.set s identities).sets = Function.update store.sets s identities.toFinset := by
  funext t
  by_cases here : t = s
  · subst here
    rw [sets, alerting_set, Function.update_self]
  · rw [sets, alerting_set_of_ne _ _ here, Function.update_of_ne here, sets]

theorem sets_add : (store.add x s).1.sets = Function.update store.sets s (insert x (store.sets s)) := by
  rw [add, sets_set]
  congr 1
  ext y
  rw [IdentitySet.mem_toFinset, IdentitySet.mem_insert, Finset.mem_insert, sets, IdentitySet.mem_toFinset]

theorem sets_remove :
    (store.remove x s).1.sets = Function.update store.sets s ((store.sets s).erase x) := by
  rw [remove, sets_set]
  congr 1
  ext y
  rw [IdentitySet.mem_toFinset, IdentitySet.mem_erase, Finset.mem_erase, sets, IdentitySet.mem_toFinset]

theorem sets_transition (t : Transition) :
    (store.transition t.identity t.level t.raise).1.sets = store.sets.next (.transition t) := by
  obtain ⟨x, s, raise⟩ := t
  cases raise with
  | true => exact sets_add
  | false => exact sets_remove

theorem changes_add : store.sets.changes (.add x s) = !store.known x s := by
  have inserted : store.sets.next (.add x s) s = insert x (store.sets s) := Function.update_self _ _ _
  rw [Bool.eq_iff_iff, Sets.changes, decide_eq_true_iff, Operation.severity, inserted, Ne,
    Finset.insert_eq_self, mem_sets, Bool.not_eq_true, Bool.not_eq_true']

theorem changes_remove : store.sets.changes (.remove x s) = store.known x s := by
  have erased : store.sets.next (.remove x s) s = (store.sets s).erase x := Function.update_self _ _ _
  rw [Bool.eq_iff_iff, Sets.changes, decide_eq_true_iff, Operation.severity, erased, Ne,
    Finset.erase_eq_self, mem_sets, not_not]

theorem changes_transition (t : Transition) :
    store.sets.changes (.transition t) = (store.transition t.identity t.level t.raise).2 := by
  rw [transition_changed]
  obtain ⟨x, s, raise⟩ := t
  cases raise with
  | true => exact changes_add.trans (Bool.true_bne _).symm
  | false => exact changes_remove.trans (Bool.false_bne _).symm

/-! ### One call -/

theorem list_ascending (store : Store) (s : Severity) :
    (store.list s).Pairwise (fun a b => a.toUTF8.toList < b.toUTF8.toList) :=
  (store.alerting s).ascending.imp Text.bytes_lt

theorem size_eq_card (store : Store) (s : Severity) : store.size s = (store.sets s).card := by
  have nodup : (store.list s).Nodup := (store.alerting s).ascending.imp String.ne_of_lt
  exact (List.toFinset_card_of_nodup nodup).symm

theorem sets_perform (store : Store) (operation : Operation) :
    (store.perform operation).1.sets = store.sets.next operation := by
  cases operation with
  | add x s => exact sets_add
  | remove x s => exact sets_remove
  | known x s | size s | list s => rfl
  | transition t => exact sets_transition t

theorem perform_gives (store : Store) (operation : Operation) :
    store.sets.Gives operation (store.perform operation).2.1 (store.perform operation).2.2 := by
  cases operation with
  | add x s => exact ⟨congrArg Answer.truth changes_add.symm, rfl⟩
  | remove x s => exact ⟨congrArg Answer.truth changes_remove.symm, rfl⟩
  | known x s =>
    refine ⟨congrArg Answer.truth ?_, rfl⟩
    rw [Bool.eq_iff_iff, decide_eq_true_iff, mem_sets]
  | size s => exact ⟨congrArg Answer.count (store.size_eq_card s), rfl⟩
  | list s =>
    exact ⟨store.list s, rfl, rfl, store.list_ascending s, fun x => List.mem_toFinset.symm,
      store.size_eq_card s⟩
  | transition t =>
    unfold Sets.Gives
    dsimp only
    rw [changes_transition]
    exact ⟨rfl, rfl⟩

theorem alerting_perform (other : operation.severity ≠ t) :
    (store.perform operation).1.alerting t = store.alerting t := by
  cases operation with
  | known x s | size s | list s => rfl
  | add x s | remove x s => exact alerting_set_of_ne _ _ (Ne.symm other)
  | transition step =>
    obtain ⟨x, s, raise⟩ := step
    cases raise with
    | true | false => exact alerting_set_of_ne _ _ (Ne.symm other)

/-- What a call returns, emits and makes of its severity is decided by the identities at that severity. -/
theorem perform_congr (same : a.alerting operation.severity = b.alerting operation.severity) :
    (a.perform operation).2 = (b.perform operation).2 ∧
      (a.perform operation).1.alerting operation.severity =
        (b.perform operation).1.alerting operation.severity := by
  cases operation with
  | add x s | remove x s | known x s | size s | list s =>
    have same : a.alerting s = b.alerting s := same
    simp [perform, add, remove, size, list, known_eq_decide, Operation.severity, same]
  | transition step =>
    obtain ⟨x, s, raise⟩ := step
    cases raise with
    | true | false =>
      have same : a.alerting s = b.alerting s := same
      simp [perform, transitionThen, transition, add, remove, known_eq_decide, Operation.severity, same]

/-! ### Histories -/

theorem history_cons (store : Store) (operation : Operation) (rest : List Operation) :
    store.history (operation :: rest) =
      (⟨operation, (store.perform operation).2.1, (store.perform operation).2.2⟩ ::
          ((store.perform operation).1.history rest).1, ((store.perform operation).1.history rest).2) := rfl

theorem history_operations (store : Store) (operations : List Operation) :
    (store.history operations).1.map Entry.operation = operations := by
  induction operations generalizing store with
  | nil => rfl
  | cons operation rest ih => rw [history_cons, List.map_cons, ih]

theorem history_records (store : Store) (operations : List Operation) :
    store.sets.Records (store.history operations).1 (store.history operations).2.sets := by
  induction operations generalizing store with
  | nil => exact .nil
  | cons operation rest ih =>
    have after := ih (store.perform operation).1
    rw [sets_perform] at after
    exact .cons (store.perform_gives operation) after

theorem history_filter (same : a.alerting t = b.alerting t) (operations : List Operation) :
    (a.history operations).1.filter (fun entry => entry.operation.severity = t) =
      (b.history (operations.filter fun operation => operation.severity = t)).1 := by
  induction operations generalizing a b with
  | nil => rfl
  | cons operation rest ih =>
    by_cases here : operation.severity = t
    · subst here
      obtain ⟨given, left⟩ := perform_congr same
      rw [history_cons, List.filter_cons_of_pos (by simp), List.filter_cons_of_pos (by simp),
        history_cons, given, ih left]
    · have left : (a.perform operation).1.alerting t = b.alerting t := (alerting_perform here).trans same
      rw [history_cons, List.filter_cons_of_neg (by simpa using here),
        List.filter_cons_of_neg (by simpa using here), ih left]

/-! ### Transitions only -/

def raisesOf (x : String) (s : Severity) (emitted : List Transition) : List Bool :=
  (emitted.filter fun t => t.identity = x ∧ t.level = s).map Transition.raise

theorem emitted_transition (t : Transition) :
    (store.perform (.transition t)).2.2 = if t.raise = store.known t.identity t.level then [] else [t] :=
  store.emitted_eq t.raise (· ++ [t]) []

theorem raisesOf_append (first second : List Transition) :
    raisesOf x s (first ++ second) = raisesOf x s first ++ raisesOf x s second := by
  rw [raisesOf, List.filter_append, List.map_append, raisesOf, raisesOf]

/-- What is emitted for an identity goes back and forth, and the last of it is what is known in the end. -/
theorem raises_alternate (store : Store) (transitions : List Transition) (x : String) (s : Severity) :
    let history := store.history (transitions.map .transition)
    let raises := raisesOf x s (history.1.flatMap Entry.emitted)
    (store.known x s :: raises).IsChain (· ≠ ·) ∧
      history.2.known x s = raises.getLastD (store.known x s) := by
  induction transitions generalizing store with
  | nil => simp [history, raisesOf]
  | cons t rest ih =>
    have after : (store.perform (.transition t)).1.known x s =
        if x = t.identity ∧ s = t.level then t.raise else store.known x s := known_transition t.raise
    obtain ⟨chain, known⟩ := ih (store.perform (.transition t)).1
    dsimp only at chain known ⊢
    rw [List.map_cons, history_cons, List.flatMap_cons, emitted_transition, raisesOf_append]
    rw [after] at chain known
    by_cases here : x = t.identity ∧ s = t.level
    · rw [if_pos here] at chain known
      obtain ⟨rfl, rfl⟩ := here
      by_cases already : t.raise = store.known t.identity t.level
      · rw [if_pos already, ← already]
        exact ⟨chain, known⟩
      · have single : raisesOf t.identity t.level [t] = [t.raise] := by simp [raisesOf]
        rw [if_neg already, single, List.singleton_append, List.isChain_cons_cons, List.getLastD_cons]
        exact ⟨⟨Ne.symm already, chain⟩, known⟩
    · rw [if_neg here] at chain known
      have silent : raisesOf x s (if t.raise = store.known t.identity t.level then [] else [t]) = [] := by
        have other : ¬(t.identity = x ∧ t.level = s) := fun same => here ⟨same.1.symm, same.2.symm⟩
        split
        · rfl
        · rw [raisesOf, List.filter_cons_of_neg (by simpa using other)]
          rfl
      rw [silent, List.nil_append]
      exact ⟨chain, known⟩

/-- Whatever is asked of a store, it answers as two sets of identities would, one for each severity. -/
theorem refines_two_sets (store : Store) :
    (∀ operations : List Operation,
      let history := store.history operations
      history.1.map Entry.operation = operations ∧
        store.sets.Records history.1 history.2.sets ∧
        ∀ s, history.1.filter (fun entry => entry.operation.severity = s) =
          (store.history (operations.filter fun operation => operation.severity = s)).1) ∧
    ∀ (transitions : List Transition) (x : String) (s : Severity),
      let history := store.history (transitions.map .transition)
      let raises := raisesOf x s (history.1.flatMap Entry.emitted)
      raises.IsChain (· ≠ ·) ∧
        (∀ first ∈ raises.head?, first = true ↔ x ∉ store.sets s) ∧
        (x ∈ history.2.sets s ↔ raises.getLast? = some true ∨ raises = [] ∧ x ∈ store.sets s) := by
  refine ⟨fun operations => ⟨store.history_operations operations, store.history_records operations,
    fun s => history_filter rfl operations⟩, fun transitions x s => ?_⟩
  obtain ⟨chain, known⟩ := store.raises_alternate transitions x s
  dsimp only at chain known ⊢
  rw [mem_sets, mem_sets, known]
  generalize raisesOf x s _ = raises at chain
  cases raises with
  | nil => simp
  | cons first rest =>
    obtain ⟨turned, alternating⟩ := List.isChain_cons_cons.mp chain
    refine ⟨alternating, fun head here => ?_, ?_⟩
    · obtain rfl : first = head := Option.some.inj here
      cases first <;> simpa using turned
    · rw [List.getLastD_cons, List.getLast?_cons]
      simp

end EdgeAlert.Store
