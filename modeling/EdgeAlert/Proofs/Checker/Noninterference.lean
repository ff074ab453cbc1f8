import EdgeAlert.Proofs.Checker.Clearing
import EdgeAlert.Proofs.Rules.Agreement

/-!
# Noninterference

Two runs of the checker over the same events, under other rules and from other stores. An observer
watches some identities at some severities. As long as the stores agree on what is watched and the
rules resolve the same patterns for it, the two runs look the same: `react_watching` shows it for a
check, `handle_watching` for an event and `reactions_watching` for a run.
-/

namespace EdgeAlert

/-- What is watched: some identities, each at some of the severities. -/
abbrev View := String → Severity → Bool

def Store.SameIn (view : View) (a b : Store) : Prop :=
  ∀ x s, view x s = true → a.known x s = b.known x s

def Alert.isIn (view : View) (a : Alert) : Bool := view a.identity a.level

/-- The rules treat alike what is watched of an event: its instance, and the patterns of its attributes. -/
structure Event.AlikeUnder (view : View) (a b : Rules) (event : Event) : Prop where
  instances : ∀ type, event.type? = some type → b.instanceProperty? type = a.instanceProperty? type
  patterns : ∀ name ∈ event.properties.names, ∀ s,
    view (event.identity a event.type? name) s = true →
      b.patternFor? name event.type? s = a.patternFor? name event.type? s

structure Reaction.SameIn (view : View) (a b : Reaction) : Prop where
  store : a.store.SameIn view b.store
  alerts : a.alerts.filter (Alert.isIn view) = b.alerts.filter (Alert.isIn view)

namespace Checker

variable {view : View} {a b : Rules} {event : Event}

/-! ### One event -/

theorem react_watching (alike : event.AlikeUnder view a b) {done done' : Reaction}
    (same : done.SameIn view done') {check : String × Value × Severity}
    (present : check.1 ∈ event.properties.names) :
    (react a event done check).SameIn view (react b event done' check) := by
  obtain ⟨name, value, s⟩ := check
  obtain ⟨store, alerts, -⟩ := observe_spec ⟨a, event, name, value⟩ s done.store
  obtain ⟨store', alerts', -⟩ := observe_spec ⟨b, event, name, value⟩ s done'.store
  have identity : Observation.identity ⟨b, event, name, value⟩ =
      Observation.identity ⟨a, event, name, value⟩ :=
    Event.identity_congr name alike.instances fun _ _ _ _ => rfl
  dsimp only at store store' alerts alerts'
  by_cases watched : view (Observation.identity ⟨a, event, name, value⟩) s = true
  · -- The check is about what is watched, and the two checks are one.
    have pattern : Observation.pattern? ⟨b, event, name, value⟩ s =
        Observation.pattern? ⟨a, event, name, value⟩ s := alike.patterns name present s watched
    have alerting : Observation.alerting ⟨b, event, name, value⟩ s =
        Observation.alerting ⟨a, event, name, value⟩ s := by
      unfold Observation.alerting
      rw [pattern]
    have alert : Observation.alert ⟨b, event, name, value⟩ s =
        Observation.alert ⟨a, event, name, value⟩ s := by
      unfold Observation.alert
      rw [pattern, alerting, identity]
    rw [identity, alerting] at store'
    rw [identity, alerting, alert, ← same.store _ s watched] at alerts'
    refine ⟨fun y t seen => ?_, ?_⟩
    · rw [react, react, store, store', Store.known_transition, Store.known_transition,
        same.store y t seen]
    · rw [react, react, alerts, alerts', List.filter_append, List.filter_append, same.alerts]
  · -- The check changes nothing that is watched, and its alert is not watched.
    have unseen : ∀ (o : Observation), o.identity = Observation.identity ⟨a, event, name, value⟩ →
        Alert.isIn view (o.alert s) = false := by
      intro o here
      rw [Alert.isIn, Observation.alert_identity, Observation.alert_level, here]
      exact Bool.eq_false_of_not_eq_true watched
    refine ⟨fun y t seen => ?_, ?_⟩
    · have other : ¬(y = Observation.identity ⟨a, event, name, value⟩ ∧ t = s) := by
        rintro ⟨rfl, rfl⟩
        exact watched seen
      rw [react, react, store, store', Store.known_transition, Store.known_transition, identity,
        if_neg other, if_neg other, same.store y t seen]
    · rw [react, react, alerts, alerts', List.filter_append, List.filter_append, same.alerts]
      congr 1
      split <;> split <;> simp [unseen _ rfl, unseen _ identity]

theorem handle_watching (first second : Checker) (same : first.store.SameIn view second.store)
    (alike : event.AlikeUnder view first.rules second.rules) :
    (first.handle event).SameIn view (second.handle event) := by
  have folded : ∀ (checks : List (String × Value × Severity)) (done done' : Reaction),
      (∀ check ∈ checks, check.1 ∈ event.properties.names) → done.SameIn view done' →
      (checks.foldl (react first.rules event) done).SameIn view
        (checks.foldl (react second.rules event) done') := by
    intro checks
    induction checks with
    | nil => exact fun _ _ _ same => same
    | cons check rest ih =>
      intro done done' present same
      obtain ⟨here, others⟩ := List.forall_mem_cons.mp present
      exact ih _ _ others (react_watching alike same here)
  refine folded _ _ _ (fun check member => ?_) ⟨same, rfl⟩
  obtain ⟨entry, held, expanded⟩ := List.mem_flatMap.mp member
  obtain ⟨s, -, rfl⟩ := List.mem_map.mp expanded
  exact List.mem_map_of_mem held

/-! ### Runs -/

/-- The events of a run in order, each with the rules that are in force when it is handled. -/
def handledUnder (rules : Rules) : List Call → List (Rules × Event)
  | [] => []
  | .handle event :: rest => (rules, event) :: handledUnder rules rest
  | .update rules :: rest => handledUnder rules rest

def reactions (store : Store) : List (Rules × Event) → List Reaction
  | [] => []
  | (rules, event) :: rest =>
    let reaction := Checker.handle { rules, store } event
    reaction :: reactions reaction.store rest

theorem run_reactions (checker : Checker) (calls : List Call) :
    let reacted := reactions checker.store (handledUnder checker.rules calls)
    (checker.run calls).2 = reacted.flatMap Reaction.alerts ∧
      (checker.run calls).1.store = (reacted.map Reaction.store).getLastD checker.store := by
  induction calls generalizing checker with
  | nil => exact ⟨rfl, rfl⟩
  | cons call rest ih =>
    cases call with
    | handle event =>
      obtain ⟨alerts, store⟩ := ih (checker.settle (checker.handle event))
      dsimp only
      rw [handledUnder, reactions, List.flatMap_cons, List.map_cons, List.getLastD_cons]
      exact ⟨congrArg _ alerts, store⟩
    | update rules => exact ih (checker.update rules).value

/-- Two runs handle the same events, each under two tables of rules that are related. -/
abbrev Alongside (related : Rules → Rules → Event → Prop) :
    List (Rules × Event) → List (Rules × Event) → Prop :=
  List.Forall₂ fun here there => there.2 = here.2 ∧ related here.1 there.1 here.2

theorem reactions_watching {store store' : Store} (same : store.SameIn view store')
    {events events' : List (Rules × Event)}
    (alike : Alongside (fun a b event => event.AlikeUnder view a b) events events') :
    List.Forall₂ (Reaction.SameIn view) (reactions store events) (reactions store' events') := by
  induction alike generalizing store store' with
  | nil => exact .nil
  | @cons here there _ _ head _ ih =>
    obtain ⟨rules, event⟩ := here
    obtain ⟨rules', event'⟩ := there
    obtain ⟨rfl, alike⟩ := head
    have reacted := handle_watching ⟨rules, store⟩ ⟨rules', store'⟩ same alike
    exact .cons reacted (ih reacted.store)

theorem alerts_watching {here there : List Reaction}
    (same : List.Forall₂ (Reaction.SameIn view) here there) :
    (here.flatMap Reaction.alerts).filter (Alert.isIn view) =
      (there.flatMap Reaction.alerts).filter (Alert.isIn view) := by
  induction same with
  | nil => rfl
  | cons head _ ih =>
    rw [List.flatMap_cons, List.flatMap_cons, List.filter_append, List.filter_append, head.alerts, ih]

/-- What is watched of a run does not depend on the rules for the rest, nor on the rest of the store. -/
theorem run_watching {first second : Checker} (same : first.store.SameIn view second.store)
    {calls calls' : List Call}
    (alike : Alongside (fun a b event => event.AlikeUnder view a b)
      (handledUnder first.rules calls) (handledUnder second.rules calls')) :
    (first.run calls).2.filter (Alert.isIn view) = (second.run calls').2.filter (Alert.isIn view) ∧
      List.Forall₂ (Reaction.SameIn view) (reactions first.store (handledUnder first.rules calls))
        (reactions second.store (handledUnder second.rules calls')) := by
  have reacted := reactions_watching same alike
  rw [(run_reactions first calls).1, (run_reactions second calls').1]
  exact ⟨alerts_watching reacted, reacted⟩

/-- Rules for other identities, other attributes and the other severity do not show. -/
theorem rules_do_not_interfere (first second : Checker) (calls calls' : List Call) :
    let events := handledUnder first.rules calls
    let events' := handledUnder second.rules calls'
    let reacted := reactions first.store events
    let reacted' := reactions second.store events'
    (∀ x s, first.store.known x s = second.store.known x s →
      Alongside (fun a b event => Rules.AgreeOn (Rules.EndsIn ".alertUUID") a b ∧
        ∀ name ∈ event.properties.names, event.identity a event.type? name = x →
          a.patternFor? name event.type? s = b.patternFor? name event.type? s) events events' →
      (first.run calls).2.filter (fun alert => alert.identity = x ∧ alert.level = s) =
          (second.run calls').2.filter (fun alert => alert.identity = x ∧ alert.level = s) ∧
        List.Forall₂ (fun here there => here.store.known x s = there.store.known x s)
          reacted reacted') ∧
    ∀ s t, s ≠ t → first.store.alerting s = second.store.alerting s →
      Alongside (fun a b _ => Rules.AgreeOn (fun key => ¬Rules.EndsIn ("." ++ t.name) key) a b)
        events events' →
      (first.run calls).2.filter (fun alert => alert.level = s) =
          (second.run calls').2.filter (fun alert => alert.level = s) ∧
        List.Forall₂ (fun here there => here.store.alerting s = there.store.alerting s)
          reacted reacted' := by
  intro events events' reacted reacted'
  refine ⟨fun x s known alike => ?_, fun s t other stores alike => ?_⟩
  · let view : View := fun y r => decide (y = x ∧ r = s)
    have same : first.store.SameIn view second.store := by
      intro y r seen
      obtain ⟨rfl, rfl⟩ := of_decide_eq_true seen
      exact known
    have watched : Alongside (fun a b event => event.AlikeUnder view a b) events events' := by
      refine alike.imp fun here there ⟨event, instances, patterns⟩ => ⟨event, ?_, ?_⟩
      · exact fun type _ => (Rules.instanceProperty?_congr instances type).symm
      · intro name held r seen
        obtain ⟨identity, rfl⟩ := of_decide_eq_true seen
        exact (patterns name held identity).symm
    obtain ⟨alerts, reactions⟩ := run_watching same watched
    exact ⟨alerts, reactions.imp fun _ _ same => same.store x s (decide_eq_true ⟨rfl, rfl⟩)⟩
  · let view : View := fun _ r => decide (r = s)
    have same : first.store.SameIn view second.store := by
      intro y r seen
      obtain rfl := of_decide_eq_true seen
      rw [Store.known_eq_decide, Store.known_eq_decide, stores]
    have watched : Alongside (fun a b event => event.AlikeUnder view a b) events events' := by
      refine alike.imp fun here there ⟨event, agree⟩ => ⟨event, ?_, ?_⟩
      · have instances := agree.mono fun key ends => Rules.endsIn_instance_not_severity ends
        exact fun type _ => (Rules.instanceProperty?_congr instances type).symm
      · intro name _ r seen
        obtain rfl := of_decide_eq_true seen
        have patterns := agree.mono fun key ends ends' => other (Rules.endsIn_severity_inj ends ends')
        exact (Rules.patternFor?_congr patterns name _).symm
    obtain ⟨alerts, reactions⟩ := run_watching same watched
    refine ⟨alerts, reactions.imp fun _ _ same => IdentitySet.ext_mem fun x => ?_⟩
    rw [← Store.known_iff, ← Store.known_iff, same.store x s (decide_eq_true rfl)]

def warningRules : Rules := usageRules.insert "usage.warn" "range:[0,50]"

def brokenRules : Rules := warningRules.insert "host.error" "range:"

theorem busy_host_not_interfered :
    let busy := Call.handle (usageEvent ⟨95, by decide⟩)
    let idle := Call.handle (usageEvent ⟨10, by decide⟩)
    let first := Checker.run ⟨usageRules, {}⟩ [busy, .update warningRules, idle]
    let broken := Checker.run ⟨warningRules, {}⟩ [busy, .update brokenRules, idle]
    let second := Checker.run ⟨warningRules, {}⟩ [busy, .update usageRules, idle]
    (first.2.filter fun a => a.identity = "cpu-usage-A" ∧ a.level = .error) =
        (broken.2.filter fun a => a.identity = "cpu-usage-A" ∧ a.level = .error) ∧
      (first.2.filter fun a => a.level = .error) = (second.2.filter fun a => a.level = .error) ∧
      (first.2.filter fun a => a.level = .error).map Alert.backToNormal = [false, true] ∧
      first.2 ≠ second.2 := by
  intro busy idle first broken second
  have told : Rules.AgreeOn (Rules.EndsIn ".alertUUID") usageRules warningRules :=
    Rules.agreeOn_insert (by decide)
  have told' : Rules.AgreeOn (Rules.EndsIn ".alertUUID") warningRules brokenRules :=
    Rules.agreeOn_insert (by decide)
  have errors : Rules.AgreeOn (fun key => ¬Rules.EndsIn ("." ++ Severity.name .warn) key) usageRules
      warningRules := Rules.agreeOn_insert (by decide)
  have watched := (rules_do_not_interfere ⟨usageRules, {}⟩ ⟨warningRules, {}⟩
    [busy, .update warningRules, idle] [busy, .update brokenRules, idle]).1 "cpu-usage-A" .error rfl
    (.cons ⟨rfl, told, by decide +kernel⟩ (.cons ⟨rfl, told', by decide +kernel⟩ .nil))
  have level := (rules_do_not_interfere ⟨usageRules, {}⟩ ⟨warningRules, {}⟩
    [busy, .update warningRules, idle] [busy, .update usageRules, idle]).2 .error .warn (by decide) rfl
    (.cons ⟨rfl, errors⟩ (.cons ⟨rfl, errors.symm⟩ .nil))
  exact ⟨watched.1, level.1, by decide +kernel, by decide +kernel⟩

end Checker
end EdgeAlert
