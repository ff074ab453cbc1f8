import EdgeAlert.Severity

/-!
# Alert store

The identities that are alerting, a set of them for each severity. A set is kept as its members in
ascending order, so equal sets are equal lists. `mem_insert` and `mem_erase` say what the two changes
do to membership.
-/

namespace EdgeAlert

def putMember (identity : String) : List String → List String
  | [] => [identity]
  | x :: xs =>
    if identity < x then identity :: x :: xs
    else if identity = x then x :: xs
    else x :: putMember identity xs

section Members

variable {identity other : String} {xs : List String}

theorem mem_putMember : other ∈ putMember identity xs ↔ other = identity ∨ other ∈ xs := by
  induction xs with
  | nil => simp [putMember]
  | cons x xs ih =>
    unfold putMember
    split
    · simp
    · split
      · simp_all
      · simp only [List.mem_cons, ih]
        grind

theorem pairwise_putMember (h : xs.Pairwise (· < ·)) : (putMember identity xs).Pairwise (· < ·) := by
  induction xs with
  | nil => simp [putMember]
  | cons x xs ih =>
    obtain ⟨hx, hxs⟩ := List.pairwise_cons.1 h
    unfold putMember
    split
    · rename_i hlt
      refine List.pairwise_cons.2 ⟨fun y hy => ?_, h⟩
      rcases List.mem_cons.1 hy with rfl | hy
      · exact hlt
      · exact String.lt_trans hlt (hx y hy)
    · split
      · exact h
      · rename_i hnlt hne
        refine List.pairwise_cons.2 ⟨fun y hy => ?_, ih hxs⟩
        rcases mem_putMember.1 hy with rfl | hy
        · exact Std.lt_of_le_of_ne hnlt (Ne.symm hne)
        · exact hx y hy

end Members

structure IdentitySet where
  members : List String
  ascending : members.Pairwise (· < ·)
  deriving DecidableEq

namespace IdentitySet

def empty : IdentitySet := ⟨[], List.Pairwise.nil⟩

def insert (s : IdentitySet) (identity : String) : IdentitySet :=
  ⟨putMember identity s.members, pairwise_putMember s.ascending⟩

def erase (s : IdentitySet) (identity : String) : IdentitySet :=
  ⟨s.members.filter (· ≠ identity), s.ascending.filter _⟩

instance : Membership String IdentitySet := ⟨fun s identity => identity ∈ s.members⟩

instance (identity : String) (s : IdentitySet) : Decidable (identity ∈ s) :=
  inferInstanceAs (Decidable (identity ∈ s.members))

variable {s : IdentitySet} {identity other : String}

theorem mem_def : identity ∈ s ↔ identity ∈ s.members := Iff.rfl

theorem mem_insert : other ∈ s.insert identity ↔ other = identity ∨ other ∈ s := mem_putMember

theorem mem_erase : other ∈ s.erase identity ↔ other ≠ identity ∧ other ∈ s := by
  simp [mem_def, erase, and_comm]

end IdentitySet

/-- The identities that are alerting at each severity. -/
structure Store where
  error : IdentitySet := .empty
  warn : IdentitySet := .empty
  deriving DecidableEq

namespace Store

def alerting (store : Store) : Severity → IdentitySet
  | .error => store.error
  | .warn => store.warn

def set (store : Store) (s : Severity) (identities : IdentitySet) : Store :=
  match s with
  | .error => { store with error := identities }
  | .warn => { store with warn := identities }

def known (store : Store) (identity : String) (s : Severity) : Bool := identity ∈ store.alerting s

def list (store : Store) (s : Severity) : List String := (store.alerting s).members

def size (store : Store) (s : Severity) : Nat := (store.list s).length

def add (store : Store) (identity : String) (s : Severity) : Store × Bool :=
  (store.set s ((store.alerting s).insert identity), !store.known identity s)

def remove (store : Store) (identity : String) (s : Severity) : Store × Bool :=
  (store.set s ((store.alerting s).erase identity), store.known identity s)

/-- The store after an identity is raised or cleared, and whether that changed anything. -/
def transition (store : Store) (identity : String) (s : Severity) (raise : Bool) : Store × Bool :=
  if raise then store.add identity s else store.remove identity s

/-- A transition together with what its caller makes of it: `emit` acts once if the transition changed
anything, and not at all otherwise. -/
def transitionThen {σ : Type} (store : Store) (identity : String) (s : Severity) (raise : Bool)
    (emit : σ → σ) (state : σ) : Store × Bool × σ :=
  let (next, changed) := store.transition identity s raise
  (next, changed, if changed then emit state else state)

@[simp] theorem alerting_set (store : Store) (s : Severity) (identities : IdentitySet) :
    (store.set s identities).alerting s = identities := by cases s <;> rfl

theorem alerting_set_of_ne (store : Store) {s t : Severity} (identities : IdentitySet) (h : t ≠ s) :
    (store.set s identities).alerting t = store.alerting t := by
  cases s <;> cases t <;> first | rfl | exact absurd rfl h

end Store
end EdgeAlert
