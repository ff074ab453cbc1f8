import EdgeAlert.Checker
import EdgeAlert.Proofs.Store.Membership

/-!
# Observations

What the checker does with one event, seen from a single identity at a single severity. An
observation is an attribute of an event under the rules in force; it is alerting or normal, whatever
the store holds. `handle_watched` says that the reaction to an event, as far as it concerns the
watched identity, is that of an edge detector fed with the observations of that identity.
-/

namespace EdgeAlert

/-- An attribute of an event, held against the rules in force. -/
structure Observation where
  rules : Rules
  event : Event
  name : String
  value : Value

namespace Observation

def identity (o : Observation) : String := o.event.identity o.rules o.event.type? o.name

def pattern? (o : Observation) (s : Severity) : Option String :=
  o.rules.patternFor? o.name o.event.type? s

/-- Without a pattern, or with one that gives no verdict, the attribute is normal. -/
def alerting (o : Observation) (s : Severity) : Bool :=
  match o.pattern? s with
  | none => false
  | some pattern =>
    match o.value.verdict pattern with
    | .ok complies => !complies
    | .error _ => false

def alert (o : Observation) (s : Severity) : Alert where
  topic := "decanter/alert/" ++ s.name
  level := s
  identity := o.identity
  pattern := (o.pattern? s).getD "REMOVED"
  backToNormal := !o.alerting s
  properties := o.event.properties

@[simp] theorem alert_identity (o : Observation) (s : Severity) : (o.alert s).identity = o.identity := rfl

@[simp] theorem alert_level (o : Observation) (s : Severity) : (o.alert s).level = s := rfl

theorem alerting_iff {o : Observation} {s : Severity} :
    o.alerting s = true ↔ ∃ pattern, o.pattern? s = some pattern ∧ o.value.verdict pattern = .ok false := by
  unfold alerting
  cases o.pattern? s with
  | none => simp
  | some pattern =>
    cases verdict : o.value.verdict pattern with
    | error e => simp [verdict]
    | ok complies => cases complies <;> simp [verdict]

end Observation

/-- The observations of an event, one for each attribute. -/
def Event.observed (event : Event) (rules : Rules) : List Observation :=
  event.properties.entries.map fun (name, value) => { rules, event, name, value }

/-! ### The edge detector -/

/-- The alerts of a detector that was alerting or not: one for each observation that differs from
what came before. -/
def edges (s : Severity) (was : Bool) : List Observation → List Alert
  | [] => []
  | o :: rest =>
    if o.alerting s = was then edges s was rest else o.alert s :: edges s (o.alerting s) rest

def settled (s : Severity) (was : Bool) (observed : List Observation) : Bool :=
  observed.foldl (fun _ o => o.alerting s) was

theorem settled_append (s : Severity) (was : Bool) (first second : List Observation) :
    settled s was (first ++ second) = settled s (settled s was first) second := by
  simp [settled, List.foldl_append]

theorem edges_append (s : Severity) (was : Bool) (first second : List Observation) :
    edges s was (first ++ second) = edges s was first ++ edges s (settled s was first) second := by
  induction first generalizing was with
  | nil => rfl
  | cons o rest ih =>
    rw [List.cons_append, edges, edges]
    by_cases same : o.alerting s = was
    · rw [if_pos same, if_pos same, ih, settled, settled, List.foldl_cons, same]
    · rw [if_neg same, if_neg same, ih, List.cons_append]
      rfl

theorem mem_edges {s : Severity} {was : Bool} {observed : List Observation} {a : Alert}
    (edge : a ∈ edges s was observed) : ∃ o ∈ observed, a = o.alert s := by
  induction observed generalizing was with
  | nil => cases edge
  | cons o rest ih =>
    have later : ∀ {was}, a ∈ edges s was rest → ∃ o' ∈ o :: rest, a = o'.alert s := by
      intro was edge
      obtain ⟨o', member, same⟩ := ih edge
      exact ⟨o', List.mem_cons_of_mem o member, same⟩
    rw [edges] at edge
    split at edge
    · exact later edge
    · rcases List.mem_cons.mp edge with same | edge
      · exact ⟨o, List.mem_cons_self, same⟩
      · exact later edge

/-- The alerts of a detector and where it ends tell where it started: the first observation is an edge
from one of the two starts only. -/
theorem start_of_edges (s : Severity) {was was' : Bool} {observed : List Observation}
    (alerts : edges s was observed = edges s was' observed)
    (known : settled s was observed = settled s was' observed) : was = was' := by
  cases observed with
  | nil => exact known
  | cons o rest =>
    by_contra different
    rw [edges, edges] at alerts
    by_cases first : o.alerting s = was
    · rw [if_pos first, if_neg fun second => different (first.symm.trans second), first] at alerts
      exact List.cons_ne_self _ _ alerts.symm
    · have second : o.alerting s = was' :=
        (Bool.eq_not_of_ne first).trans (Bool.eq_not_of_ne (Ne.symm different)).symm
      rw [if_neg first, if_pos second, second] at alerts
      exact List.cons_ne_self _ _ alerts

namespace Checker

/-! ### One observation -/

theorem judge_observed (o : Observation) (s : Severity) :
    (judge o.rules o.event o.name o.value s).value.raises = o.alerting s ∧
      (judge o.rules o.event o.name o.value s).value.pattern = (o.pattern? s).getD "REMOVED" := by
  unfold judge Observation.alerting Observation.pattern?
  cases o.rules.patternFor? o.name o.event.type? s with
  | none => exact ⟨rfl, rfl⟩
  | some pattern =>
    dsimp only [Value.complies]
    cases o.value.verdict pattern with
    | error e => exact ⟨rfl, rfl⟩
    | ok complies => cases complies <;> exact ⟨rfl, rfl⟩

/-- An observation makes its verdict known under its identity, and is posted and counted exactly if
the verdict was not known. -/
theorem observe_spec (o : Observation) (s : Severity) (store : Store) :
    let reaction := observe o.rules o.event o.name o.value s store
    reaction.store = (store.transition o.identity s (o.alerting s)).1 ∧
      reaction.alerts = (if o.alerting s = store.known o.identity s then [] else [o.alert s]) ∧
      reaction.changes = reaction.alerts.length := by
  obtain ⟨raises, pattern⟩ := judge_observed o s
  unfold observe
  dsimp only
  rw [raises, pattern]
  have changed : (store.transition o.identity s (o.alerting s)).2 =
      (o.alerting s != store.known o.identity s) := Store.transition_changed _
  unfold Observation.identity at changed ⊢
  by_cases same : o.alerting s = store.known (o.event.identity o.rules o.event.type? o.name) s
  · rw [if_neg (by rw [changed]; simp [same]), if_pos same]
    exact ⟨rfl, rfl, rfl⟩
  · rw [if_pos (by rw [changed]; simpa using same), if_neg same]
    exact ⟨rfl, rfl, rfl⟩

theorem observe_emits (o : Observation) (s : Severity) (store : Store) :
    let reaction := observe o.rules o.event o.name o.value s store
    let emission := store.transitionThen o.identity s (o.alerting s) (· ++ [o.alert s]) []
    reaction.store = emission.1 ∧ reaction.alerts = emission.2.2 := by
  obtain ⟨next, alerts, -⟩ := observe_spec o s store
  refine ⟨next, ?_⟩
  rw [Store.emitted_eq]
  exact alerts

/-! ### One event -/

theorem foldl_react (rules : Rules) (event : Event) (checks : List (String × Value × Severity))
    (done : Reaction) :
    let fresh := checks.foldl (react rules event) { store := done.store }
    let all := checks.foldl (react rules event) done
    all.store = fresh.store ∧ all.alerts = done.alerts ++ fresh.alerts ∧
      all.changes = done.changes + fresh.changes := by
  induction checks generalizing done with
  | nil => simp
  | cons check rest ih =>
    obtain ⟨store, alerts, changes⟩ := ih (react rules event done check)
    obtain ⟨store', alerts', changes'⟩ := ih (react rules event { store := done.store } check)
    dsimp only [List.foldl_cons]
    rw [store, store', alerts, alerts', changes, changes']
    simp [react, List.append_assoc, Nat.add_assoc]

/-- The observation in a check, if it is about the watched identity at the watched severity. -/
def watch (rules : Rules) (event : Event) (x : String) (s : Severity)
    (check : String × Value × Severity) : Option Observation :=
  let o : Observation := { rules, event, name := check.1, value := check.2.1 }
  if check.2.2 = s ∧ o.identity = x then some o else none

theorem watch_observations (rules : Rules) (event : Event) (x : String) (s : Severity) :
    (observations event).filterMap (watch rules event x s) =
      (event.observed rules).filter (fun o => o.identity = x) := by
  unfold observations Event.observed
  induction event.properties.entries with
  | nil => rfl
  | cons entry rest ih =>
    rw [List.flatMap_cons, List.filterMap_append, ih, List.map_cons, List.filter_cons]
    by_cases here : (Observation.mk rules event entry.1 entry.2).identity = x
    · cases s <;> simp [Severity.all, watch, here]
    · cases s <;> simp [Severity.all, watch, here]

theorem react_watched (rules : Rules) (event : Event) (done : Reaction) (x : String) (s : Severity)
    (check : String × Value × Severity) :
    let next := react rules event done check
    let seen := (watch rules event x s check).toList
    next.store.known x s = settled s (done.store.known x s) seen ∧
      next.alerts.filter (fun a => a.identity = x ∧ a.level = s) =
        done.alerts.filter (fun a => a.identity = x ∧ a.level = s) ++
          edges s (done.store.known x s) seen := by
  obtain ⟨name, value, t⟩ := check
  obtain ⟨store, alerts, -⟩ := observe_spec { rules, event, name, value } t done.store
  dsimp only [react, watch]
  rw [store, alerts, Store.known_transition, List.filter_append]
  generalize Observation.mk rules event name value = o
  by_cases here : t = s ∧ o.identity = x
  · obtain ⟨rfl, rfl⟩ := here
    by_cases same : o.alerting t = done.store.known o.identity t
    · simp [settled, edges, same]
    · simp [settled, edges, same]
  · have elsewhere : ¬(x = o.identity ∧ s = t) := fun h => here ⟨h.2.symm, h.1.symm⟩
    have other : o.identity = x → ¬t = s := fun identity level => here ⟨level, identity⟩
    rw [if_neg elsewhere, if_neg here]
    refine ⟨rfl, ?_⟩
    split
    · simp [edges]
    · simpa [edges] using other

theorem fold_watched (rules : Rules) (event : Event) (checks : List (String × Value × Severity))
    (done : Reaction) (x : String) (s : Severity) :
    let after := checks.foldl (react rules event) done
    let seen := checks.filterMap (watch rules event x s)
    after.store.known x s = settled s (done.store.known x s) seen ∧
      after.alerts.filter (fun a => a.identity = x ∧ a.level = s) =
        done.alerts.filter (fun a => a.identity = x ∧ a.level = s) ++
          edges s (done.store.known x s) seen := by
  induction checks generalizing done with
  | nil => exact ⟨rfl, by simp [edges]⟩
  | cons check rest ih =>
    obtain ⟨known, posted⟩ := react_watched rules event done x s check
    obtain ⟨known', posted'⟩ := ih (react rules event done check)
    have split : (check :: rest).filterMap (watch rules event x s) =
        (watch rules event x s check).toList ++ rest.filterMap (watch rules event x s) := by
      cases h : watch rules event x s check <;> simp [h]
    dsimp only
    rw [List.foldl_cons, known', posted', known, posted, split, settled_append, edges_append,
      List.append_assoc]
    exact ⟨rfl, rfl⟩

/-- As far as one identity at one severity is concerned, handling an event is an edge detector fed
with the observations of the event that have this identity. -/
theorem handle_watched (checker : Checker) (event : Event) (x : String) (s : Severity) :
    let reaction := checker.handle event
    let seen := (event.observed checker.rules).filter (fun o => o.identity = x)
    reaction.store.known x s = settled s (checker.store.known x s) seen ∧
      reaction.alerts.filter (fun a => a.identity = x ∧ a.level = s) =
        edges s (checker.store.known x s) seen := by
  have folded := fold_watched checker.rules event (observations event) { store := checker.store } x s
  rw [watch_observations] at folded
  exact folded

theorem handle_changes (checker : Checker) (event : Event) :
    (checker.handle event).changes = (checker.handle event).alerts.length := by
  have folded : ∀ (checks : List (String × Value × Severity)) (done : Reaction),
      done.changes = done.alerts.length →
      (checks.foldl (react checker.rules event) done).changes =
        (checks.foldl (react checker.rules event) done).alerts.length := by
    intro checks
    induction checks with
    | nil => exact fun _ counted => counted
    | cons check rest ih =>
      intro done counted
      obtain ⟨-, -, changes⟩ :=
        observe_spec ⟨checker.rules, event, check.1, check.2.1⟩ check.2.2 done.store
      refine ih _ ?_
      rw [react, List.length_append, ← counted, ← changes]
  exact folded _ _ rfl

end Checker
end EdgeAlert
