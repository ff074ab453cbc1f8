import EdgeAlert.Proofs.Checker.Clearing

/-!
# The order of the attributes

Two events with the same attributes in another order are seen alike: each identity is observed with the
same verdicts and patterns. `attribute_order_immaterial`: the store that they lead to is the same, and
so are their alerts, but for the order in which they are posted.
-/

namespace EdgeAlert

/-- What an alert says, apart from the properties that it copies from its event. -/
def Alert.content (a : Alert) : Severity × String × String × Bool :=
  (a.level, a.identity, a.pattern, a.backToNormal)

def Event.Reordered (event event' : Event) : Prop :=
  event.properties.entries.Perm event'.properties.entries

namespace Event.Reordered

variable {event event' : Event}

theorem symm (same : event.Reordered event') : event'.Reordered event := List.Perm.symm same

theorem get?_eq (same : event.Reordered event') (name : String) :
    event'.properties.get? name = event.properties.get? name := by
  refine Option.ext fun value => ?_
  rw [OrderedMap.get?_eq_some_iff, OrderedMap.get?_eq_some_iff]
  exact same.mem_iff.symm

theorem type?_eq (same : event.Reordered event') : event'.type? = event.type? :=
  congrArg (Option.bind · Value.text?) (same.get?_eq Event.typeProperty)

theorem identity_eq (same : event.Reordered event') (rules : Rules) (name : String) :
    event'.identity rules event'.type? name = event.identity rules event.type? name := by
  rw [same.type?_eq]
  exact Event.identity_congr name (fun _ _ => rfl) fun _ property _ _ => same.get?_eq property

end Event.Reordered

namespace Checker

variable {event event' : Event} {rules : Rules} {x : String} {s : Severity}

theorem observed_reordered (same : event.Reordered event') {o : Observation}
    (member : o ∈ event.observed rules) :
    ∃ o' ∈ event'.observed rules, o'.identity = o.identity ∧
      ∀ s, o'.alerting s = o.alerting s ∧ (o'.alert s).content = (o.alert s).content := by
  obtain ⟨rfl, rfl, held⟩ := mem_observed.mp member
  refine ⟨{ o with event := event' }, mem_observed.mpr ⟨rfl, rfl, (same.get?_eq _).trans held⟩,
    same.identity_eq _ _, fun s => ?_⟩
  have pattern : Observation.pattern? { o with event := event' } s = o.pattern? s :=
    congrArg (o.rules.patternFor? o.name · s) same.type?_eq
  have alerting : Observation.alerting { o with event := event' } s = o.alerting s := by
    unfold Observation.alerting
    rw [pattern]
  have identity : Observation.identity { o with event := event' } = o.identity := same.identity_eq _ _
  exact ⟨alerting, by simp [Alert.content, Observation.alert, pattern, alerting, identity]⟩

theorem unobserved_reordered (same : event.Reordered event')
    (absent : ∀ o ∈ event.observed rules, o.identity ≠ x) :
    ∀ o ∈ event'.observed rules, o.identity ≠ x := by
  intro o' member' here
  obtain ⟨o, member, identity, -⟩ := observed_reordered same.symm member'
  exact absent o member (identity.trans here)

/-- The two events leave one identity alike, and say the same about it. -/
theorem handle_reordered (checker : Checker) (same : event.Reordered event') (x : String) (s : Severity) :
    (checker.handle event').store.known x s = (checker.handle event).store.known x s ∧
      ((checker.handle event').alerts.filter fun a => a.identity = x ∧ a.level = s).map Alert.content =
        ((checker.handle event).alerts.filter fun a => a.identity = x ∧ a.level = s).map Alert.content := by
  rcases observed_or_not event checker.rules x with ⟨o, member, rfl⟩ | absent
  · obtain ⟨o', member', identity, alike⟩ := observed_reordered same member
    obtain ⟨alerting, content⟩ := alike s
    obtain ⟨known, posted⟩ := handle_observed member s
    obtain ⟨known', posted'⟩ := handle_observed member' s
    rw [identity] at known' posted'
    rw [known, known', posted, posted', alerting]
    refine ⟨rfl, ?_⟩
    split
    · rfl
    · rw [List.map_singleton, List.map_singleton, content]
  · obtain ⟨known, posted⟩ := handle_unobserved absent s
    obtain ⟨known', posted'⟩ := handle_unobserved (unobserved_reordered same absent) s
    rw [known, known', posted, posted']
    exact ⟨rfl, rfl⟩

theorem count_content (alerts : List Alert) (content : Severity × String × String × Bool) :
    (alerts.map Alert.content).count content =
      ((alerts.filter fun a => a.identity = content.2.1 ∧ a.level = content.1).map Alert.content).count content := by
  rw [List.count_eq_countP, List.count_eq_countP, List.countP_map, List.countP_map, List.countP_filter]
  refine List.countP_congr fun a _ => ?_
  simp only [Function.comp_apply, beq_iff_eq, Bool.and_eq_true, decide_eq_true_eq]
  constructor
  · rintro rfl
    exact ⟨rfl, rfl, rfl⟩
  · exact And.left

/-- The order in which an event has its properties does not matter, but for the copies in its alerts. -/
theorem attribute_order_immaterial (checker : Checker) (event event' : Event)
    (same : event.properties.entries.Perm event'.properties.entries) :
    let reaction := checker.handle event
    let reaction' := checker.handle event'
    reaction'.changes = reaction.changes ∧
      (∀ s, reaction'.store.alerting s = reaction.store.alerting s) ∧
      (reaction'.alerts.map Alert.content).Perm (reaction.alerts.map Alert.content) := by
  intro reaction reaction'
  have contents : (reaction'.alerts.map Alert.content).Perm (reaction.alerts.map Alert.content) := by
    refine List.perm_iff_count.mpr fun content => ?_
    rw [count_content, count_content reaction.alerts]
    exact congrArg _ (handle_reordered checker same content.2.1 content.1).2
  have stores : reaction'.store = reaction.store :=
    Store.ext_known fun x s => (handle_reordered checker same x s).1
  refine ⟨?_, fun s => congrArg (Store.alerting · s) stores, contents⟩
  have counted := contents.length_eq
  rw [List.length_map, List.length_map] at counted
  exact (handle_changes checker event').trans (counted.trans (handle_changes checker event).symm)

/-- Two attributes of a host are out of their patterns, in either order. -/
theorem disks_in_either_order :
    let rules : Rules := .ofList [("cpu.alertUUID", "host"), ("usage.error", "range:[0,90]"),
      ("disk.warn", "range:[0,50]")]
    let entries : List (String × Value) := [("usage", .long ⟨95, by decide⟩), ("type", .text "cpu"),
      ("host", .text "A"), ("disk", .long ⟨70, by decide⟩)]
    let event : Event := { topic := "decanter/collect/cpu", properties := .ofList entries }
    let event' : Event := { event with properties := .ofList entries.reverse }
    let reaction := Checker.handle ⟨rules, {}⟩ event
    let reaction' := Checker.handle ⟨rules, {}⟩ event'
    event.properties.entries.Perm event'.properties.entries ∧
      (reaction.alerts.map Alert.identity) = ["cpu-usage-A", "cpu-disk-A"] ∧
      (reaction'.alerts.map Alert.identity) = ["cpu-disk-A", "cpu-usage-A"] ∧
      reaction'.changes = reaction.changes ∧
      ∀ s, reaction'.store.alerting s = reaction.store.alerting s := by
  intro rules entries event event' reaction reaction'
  have same : event.properties.entries.Perm event'.properties.entries := by decide +kernel
  obtain ⟨changes, stores, -⟩ := attribute_order_immaterial ⟨rules, {}⟩ event event' same
  exact ⟨same, by decide +kernel, by decide +kernel, changes, stores⟩

end Checker
end EdgeAlert
