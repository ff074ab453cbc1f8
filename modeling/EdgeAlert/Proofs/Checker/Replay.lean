import EdgeAlert.Proofs.Checker.Run

/-!
# Replaying alerts

The alerts of a run tell all that happened to the store. `run_replays`: adding the identity of each
raise to the store that the run started from, and removing that of each clear, changes the store every
time and ends in the store that the run leaves.
-/

namespace EdgeAlert

namespace Store

/-- One after the other, the alerts lead from one store to another: a raise adds its identity and a
clear removes it, and each of them changes the store. -/
inductive Replays : Store → List Alert → Store → Prop where
  | nil {store : Store} : Replays store [] store
  | cons {store next last : Store} {alert : Alert} {rest : List Alert}
    (changed : store.transition alert.identity alert.level (!alert.backToNormal) = (next, true))
    (others : Replays next rest last) : Replays store (alert :: rest) last

variable {store middle last : Store} {x : String} {s : Severity}

theorem Replays.append {first second : List Alert} (here : Replays store first middle)
    (there : Replays middle second last) : Replays store (first ++ second) last := by
  induction here with
  | nil => exact there
  | cons changed _ ih => exact .cons changed (ih there)

theorem Replays.eq_of_nil (replays : Replays store [] last) : last = store := by
  cases replays
  rfl

theorem transition_of_known {raise : Bool} (known : store.known x s = raise) :
    (store.transition x s raise).1 = store := by
  refine ext_known fun y t => ?_
  rw [known_transition]
  split
  · rename_i here
    rw [here.1, here.2, known]
  · rfl

end Store

namespace Checker

theorem observe_replays (o : Observation) (s : Severity) (store : Store) :
    let reaction := observe o.rules o.event o.name o.value s store
    store.Replays reaction.alerts reaction.store := by
  obtain ⟨left, alerts, -⟩ := observe_spec o s store
  dsimp only
  rw [left, alerts]
  by_cases same : o.alerting s = store.known o.identity s
  · rw [if_pos same, Store.transition_of_known same.symm]
    exact .nil
  · rw [if_neg same]
    refine .cons ?_ .nil
    have changed : (store.transition o.identity s (o.alerting s)).2 = true := by
      rw [Store.transition_changed]
      simpa using same
    have raise : (!(o.alert s).backToNormal) = o.alerting s := Bool.not_not _
    rw [Observation.alert_identity, Observation.alert_level, raise, ← changed]

theorem handle_replays (checker : Checker) (event : Event) :
    checker.store.Replays (checker.handle event).alerts (checker.handle event).store := by
  have folded : ∀ (checks : List (String × Value × Severity)) (done : Reaction),
      checker.store.Replays done.alerts done.store →
      checker.store.Replays (checks.foldl (react checker.rules event) done).alerts
        (checks.foldl (react checker.rules event) done).store := by
    intro checks
    induction checks with
    | nil => exact fun _ replays => replays
    | cons check rest ih =>
      intro done replays
      have next := observe_replays ⟨checker.rules, event, check.1, check.2.1⟩ check.2.2 done.store
      exact ih _ (replays.append next)
  exact folded _ _ .nil

theorem run_replays (checker : Checker) (calls : List Call) :
    checker.store.Replays (checker.run calls).2 (checker.run calls).1.store := by
  induction calls generalizing checker with
  | nil => exact .nil
  | cons call rest ih =>
    cases call with
    | handle event => exact (handle_replays checker event).append (ih (checker.settle (checker.handle event)))
    | update rules => exact ih (checker.update rules).value

/-- Events that post nothing leave the checker as it is. -/
theorem run_handle_silent {checker : Checker} {events : List Event}
    (silent : (checker.run (events.map .handle)).2 = []) :
    (checker.run (events.map .handle)).1 = checker := by
  have replays := run_replays checker (events.map .handle)
  rw [silent] at replays
  have rules := run_handle_rules checker events
  generalize checker.run (events.map .handle) = ran at replays rules
  obtain ⟨⟨inForce, store⟩, alerts⟩ := ran
  obtain rfl : store = checker.store := replays.eq_of_nil
  obtain rfl : inForce = checker.rules := rules
  rfl

end Checker
end EdgeAlert
