import EdgeAlert.Proofs.Checker.Observation

/-!
# Runs of the checker

A run is any sequence of events and changes of the rules. `run_edges` says that the checker is an
edge detector for each identity at each severity: along a run it posts one alert for each observation
of the identity whose verdict differs from the one before, the store giving the first.
-/

namespace EdgeAlert

inductive Call where
  | handle (event : Event)
  | update (rules : Rules)

namespace Checker

def perform (checker : Checker) : Call → Checker × List Alert
  | .handle event => (checker.settle (checker.handle event), (checker.handle event).alerts)
  | .update rules => ((checker.update rules).value, [])

def run (checker : Checker) : List Call → Checker × List Alert
  | [] => (checker, [])
  | call :: rest =>
    let (next, alerts) := checker.perform call
    let (last, more) := run next rest
    (last, alerts ++ more)

/-- The observations along a run, in the order in which the events and their attributes come, each
with the rules then in force. -/
def observedBy (rules : Rules) : List Call → List Observation
  | [] => []
  | .handle event :: rest => event.observed rules ++ observedBy rules rest
  | .update rules :: rest => observedBy rules rest

theorem run_append (checker : Checker) (first second : List Call) :
    checker.run (first ++ second) =
      (((checker.run first).1.run second).1,
        (checker.run first).2 ++ ((checker.run first).1.run second).2) := by
  induction first generalizing checker with
  | nil => rfl
  | cons call rest ih => simp only [List.cons_append, run, ih, List.append_assoc]

/-- What is known of an identity after a run is the verdict on its last observation. -/
theorem run_known (checker : Checker) (calls : List Call) (x : String) (s : Severity) :
    (checker.run calls).1.store.known x s =
      settled s (checker.store.known x s)
        ((observedBy checker.rules calls).filter (fun o => o.identity = x)) := by
  induction calls generalizing checker with
  | nil => rfl
  | cons call rest ih =>
    cases call with
    | handle event =>
      obtain ⟨known, -⟩ := handle_watched checker event x s
      simp only [run, perform, observedBy]
      rw [ih, List.filter_append, settled_append, ← known]
      rfl
    | update rules => exact ih _

theorem run_posted (checker : Checker) (calls : List Call) (x : String) (s : Severity) :
    (checker.run calls).2.filter (fun a => a.identity = x ∧ a.level = s) =
      edges s (checker.store.known x s)
        ((observedBy checker.rules calls).filter (fun o => o.identity = x)) := by
  induction calls generalizing checker with
  | nil => rfl
  | cons call rest ih =>
    cases call with
    | handle event =>
      obtain ⟨known, posted⟩ := handle_watched checker event x s
      simp only [run, perform, observedBy]
      rw [List.filter_append, posted, ih, List.filter_append, edges_append, ← known]
      rfl
    | update rules => exact ih _

/-- Along every run, the alerts for an identity at a severity are those of an edge detector. -/
theorem run_edges (checker : Checker) (calls : List Call) (x : String) (s : Severity) :
    let seen := (observedBy checker.rules calls).filter (fun o => o.identity = x)
    (checker.run calls).2.filter (fun a => a.identity = x ∧ a.level = s) =
        edges s (checker.store.known x s) seen ∧
      (checker.run calls).1.store.known x s = settled s (checker.store.known x s) seen :=
  ⟨run_posted checker calls x s, run_known checker calls x s⟩

theorem mem_observedBy {rules : Rules} {calls : List Call} {o : Observation}
    (observed : o ∈ observedBy rules calls) : Call.handle o.event ∈ calls := by
  induction calls generalizing rules with
  | nil => cases observed
  | cons call rest ih =>
    cases call with
    | handle event =>
      rcases List.mem_append.mp observed with first | later
      · obtain ⟨entry, -, rfl⟩ := List.mem_map.mp first
        exact List.mem_cons_self
      · exact List.mem_cons_of_mem _ (ih later)
    | update rules' => exact List.mem_cons_of_mem _ (ih observed)

theorem origin_of_posted {checker : Checker} {calls : List Call} {a : Alert}
    (posted : a ∈ (checker.run calls).2) :
    a.topic = a.level.topic ∧ ∃ event, Call.handle event ∈ calls ∧ a.properties = event.properties := by
  have edge : a ∈ (checker.run calls).2.filter (fun b => b.identity = a.identity ∧ b.level = a.level) :=
    List.mem_filter.mpr ⟨posted, by simp⟩
  rw [run_posted] at edge
  obtain ⟨o, member, same⟩ := mem_edges edge
  have observed := (List.mem_filter.mp member).1
  refine ⟨?_, o.event, mem_observedBy observed, ?_⟩
  · rw [same]
    rfl
  · rw [same]
    rfl

theorem run_handle_rules (checker : Checker) (events : List Event) :
    (checker.run (events.map .handle)).1.rules = checker.rules := by
  induction events generalizing checker with
  | nil => rfl
  | cons event rest ih => exact ih (checker.settle (checker.handle event))

/-- Under the same rules, what a run posts and the store that it leaves tell which store it started
from. -/
theorem run_store_inj {a b : Checker} (rules : a.rules = b.rules) (calls : List Call) :
    (a.run calls).2 = (b.run calls).2 ∧ (a.run calls).1.store = (b.run calls).1.store ↔
      a.store = b.store := by
  constructor
  · rintro ⟨posted, left⟩
    refine Store.ext_known fun x s => ?_
    have alerts := run_posted a calls x s
    have known := run_known a calls x s
    rw [posted, run_posted b, ← rules] at alerts
    rw [left, run_known b, ← rules] at known
    exact (start_of_edges s alerts known).symm
  · intro stores
    obtain ⟨inForce, store⟩ := a
    obtain rfl : inForce = b.rules := rules
    obtain rfl : store = b.store := stores
    exact ⟨rfl, rfl⟩

end Checker
end EdgeAlert
