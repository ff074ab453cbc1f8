import Mathlib.Data.Finset.Basic
import Mathlib.Data.Finset.Dedup
import Mathlib.Data.List.Sort
import EdgeAlert.Store

/-!
# Membership of the store

A store is determined by what it knows, and a transition sets what is known of one identity at one
severity and leaves the rest alone. `known_transition` and `transition_changed` are the view through
which the checker is studied.
-/

namespace EdgeAlert

theorem IdentitySet.ext_mem {a b : IdentitySet} (h : ∀ x, x ∈ a ↔ x ∈ b) : a = b := by
  obtain ⟨xs, ascending⟩ := a
  obtain ⟨ys, ascending'⟩ := b
  have same : xs = ys := ascending.eq_of_mem_iff ascending' h
  subst same
  rfl

def IdentitySet.toFinset (identities : IdentitySet) : Finset String := identities.members.toFinset

theorem IdentitySet.mem_toFinset {identities : IdentitySet} {x : String} :
    x ∈ identities.toFinset ↔ x ∈ identities := List.mem_toFinset

namespace Store

variable {store : Store} {x y : String} {s t : Severity}

theorem known_iff : store.known x s = true ↔ x ∈ store.alerting s := by simp [known]

theorem known_eq_decide : store.known x s = decide (x ∈ store.alerting s) := rfl

theorem known_empty : ({} : Store).known x s = false := by
  cases s <;> rfl

theorem ext_alerting {a b : Store} (same : ∀ s, a.alerting s = b.alerting s) : a = b := by
  obtain ⟨error, warn⟩ := a
  obtain ⟨error', warn'⟩ := b
  have errors : error = error' := same .error
  have warns : warn = warn' := same .warn
  rw [errors, warns]

theorem ext_known {a b : Store} (h : ∀ x s, a.known x s = b.known x s) : a = b :=
  ext_alerting fun s => IdentitySet.ext_mem fun x => by rw [← known_iff, ← known_iff, h]

theorem known_set (identities : IdentitySet) :
    (store.set s identities).known y t = if t = s then decide (y ∈ identities) else store.known y t := by
  by_cases h : t = s
  · subst h
    simp [known]
  · simp [known, h, alerting_set_of_ne]

theorem known_add : (store.add x s).1.known y t = (decide (y = x ∧ t = s) || store.known y t) := by
  rw [add, known_set]
  by_cases h : t = s
  · subst h
    simp [IdentitySet.mem_insert, known_eq_decide]
  · simp [h]

theorem known_remove :
    (store.remove x s).1.known y t = (!decide (y = x ∧ t = s) && store.known y t) := by
  rw [remove, known_set]
  by_cases h : t = s
  · subst h
    simp [IdentitySet.mem_erase, known_eq_decide]
  · simp [h]

/-- A transition decides about its own identity at its own severity, and about no other. -/
theorem known_transition (raise : Bool) :
    (store.transition x s raise).1.known y t =
      if y = x ∧ t = s then raise else store.known y t := by
  unfold transition
  cases raise with
  | true =>
    rw [if_pos rfl, known_add]
    split <;> rename_i h <;> simp [h]
  | false =>
    rw [if_neg (by decide), known_remove]
    split <;> rename_i h <;> simp [h]

theorem transition_changed (raise : Bool) :
    (store.transition x s raise).2 = (raise != store.known x s) := by
  cases raise <;> simp [transition, add, remove]

theorem emitted_eq {σ : Type} (raise : Bool) (emit : σ → σ) (state : σ) :
    (store.transitionThen x s raise emit state).2.2 =
      if raise = store.known x s then state else emit state := by
  dsimp only [transitionThen]
  rw [transition_changed]
  by_cases already : raise = store.known x s
  · rw [if_pos already, if_neg (by simp [already])]
  · rw [if_neg already, if_pos (by simpa using already)]

end Store
end EdgeAlert
