import EdgeAlert.Proofs.Checker.OneEvent
import EdgeAlert.Proofs.Checker.Run

/-!
# Clearing what was raised

An alert is cleared by a later event only under the identity that it was raised under, and identities
are made from the rules in force. `raised_clears_iff` says exactly which rules let a normal
observation clear an alert: those under which some normal attribute still has the identity, as when
the rules name the same property to tell instances apart. `renamed_identity_stays` is an alert that
is left behind.
-/

namespace EdgeAlert.Checker

variable {checker : Checker} {event : Event} {x : String} {s : Severity}

theorem posted_known {a : Alert} (posted : a ∈ (checker.handle event).alerts) :
    (checker.handle event).store.known a.identity a.level = !a.backToNormal := by
  have here : a ∈ (checker.handle event).alerts.filter
      (fun b => b.identity = a.identity ∧ b.level = a.level) :=
    List.mem_filter.mpr ⟨posted, by simp⟩
  rcases observed_or_not event checker.rules a.identity with ⟨o, member, same⟩ | absent
  · obtain ⟨known, alerts⟩ := handle_observed member a.level
    rw [← same] at here ⊢
    rw [alerts] at here
    rw [known]
    split at here
    · cases here
    · have equal := List.mem_singleton.mp here
      have normal : a.backToNormal = !o.alerting a.level := by rw [equal]; rfl
      rw [normal, Bool.not_not]
  · rw [(handle_unobserved absent a.level).2] at here
    cases here

/-- No pattern of the rules finds a value of the attribute at fault. -/
def Normal (rules : Rules) (event : Event) (name : String) (value : Value) (s : Severity) : Prop :=
  ∀ pattern, rules.patternFor? name event.type? s = some pattern → (value.complies pattern).value = true

theorem normal_iff {rules : Rules} {name : String} {value : Value} :
    Normal rules event name value s ↔
      (Observation.mk rules event name value).alerting s = false := by
  unfold Normal Observation.alerting Observation.pattern?
  dsimp only
  cases rules.patternFor? name event.type? s with
  | none => simp
  | some pattern =>
    simp only [Option.some.injEq, forall_eq', Value.complies]
    cases value.verdict pattern with
    | error e => simp
    | ok complies => cases complies <;> simp

theorem handle_normal {name : String} {value : Value}
    (held : event.properties.get? name = some value)
    (normal : Normal checker.rules event name value s) :
    event.identity checker.rules event.type? name ∉ (checker.handle event).store.alerting s := by
  have member := mem_observed (o := ⟨checker.rules, event, name, value⟩) |>.mpr ⟨rfl, rfl, held⟩
  have known := (handle_observed member s).1
  rw [normal_iff.mp normal] at known
  rw [← Store.known_iff, Bool.not_eq_true]
  exact known

theorem handle_clears_iff (known : checker.store.known x s = true) :
    x ∉ (checker.handle event).store.alerting s ↔
      ∃ name value, event.properties.get? name = some value ∧
        event.identity checker.rules event.type? name = x ∧
          Normal checker.rules event name value s := by
  constructor
  · intro cleared
    rw [← Store.known_iff, handle_known_iff, not_or] at cleared
    obtain ⟨silent, unseen⟩ := cleared
    rcases observed_or_not event checker.rules x with ⟨o, member, identity⟩ | absent
    · obtain ⟨rules, event', name, value⟩ := o
      obtain ⟨rfl, rfl, held⟩ := mem_observed.mp member
      refine ⟨name, value, held, identity, normal_iff.mpr ?_⟩
      rw [← Bool.not_eq_true]
      exact fun alerting => silent ⟨_, member, identity, alerting⟩
    · exact absurd ⟨absent, known⟩ unseen
  · rintro ⟨name, value, held, rfl, normal⟩
    exact handle_normal held normal

/-- Whatever happens in between, an alert is cleared by a later event with a normal value of its attribute
exactly if some normal attribute of that event still has its identity. -/
theorem raised_clears_iff (checker : Checker) (event later : Event) (rules : Rules) (name : String)
    (s : Severity) (value : Value)
    (raised : ∃ a ∈ (checker.handle event).alerts, a.level = s ∧ a.backToNormal = false ∧
      a.identity = event.identity checker.rules event.type? name)
    (notType : name ≠ Event.typeProperty)
    (notInstance : ∀ type, event.type? = some type → checker.rules.instanceProperty? type ≠ some name)
    (same : ∀ other, other ≠ name → later.properties.get? other = event.properties.get? other)
    (held : later.properties.get? name = some value)
    (normal : Normal rules later name value s) :
    let x := event.identity checker.rules event.type? name
    let start := checker.settle (checker.handle event)
    let Clears := ∀ between, (start.run between).1.rules = rules →
      x ∉ ((start.run between).1.handle later).store.alerting s
    (Clears ↔ ∃ other value', later.properties.get? other = some value' ∧
      later.identity rules later.type? other = x ∧ Normal rules later other value' s) ∧
    ((∀ type, event.type? = some type →
      rules.instanceProperty? type = checker.rules.instanceProperty? type) → Clears) := by
  intro x start Clears
  have sufficient : (∃ other value', later.properties.get? other = some value' ∧
      later.identity rules later.type? other = x ∧ Normal rules later other value' s) → Clears := by
    rintro ⟨other, value', held', identity, normal'⟩ between inForce
    rw [← identity]
    subst inForce
    exact handle_normal held' normal'
  refine ⟨⟨fun clears => ?_, sufficient⟩, fun steady => sufficient ⟨name, value, held, ?_, normal⟩⟩
  · -- Nothing but the change of the rules happens between the events, so the alert is still known.
    have known : (start.run [.update rules]).1.store.known x s = true := by
      obtain ⟨a, posted, rfl, raise, identity⟩ := raised
      have stays := posted_known posted
      rw [identity, raise] at stays
      exact stays
    exact (handle_clears_iff known).mp (clears [.update rules] rfl)
  · have type : later.type? = event.type? := by
      unfold Event.type? Event.typeOf?
      rw [same _ (Ne.symm notType)]
    rw [type]
    refine Event.identity_congr name steady fun kind property typed found => same property ?_
    rintro rfl
    exact notInstance kind typed found

def usageRules : Rules := .ofList [("cpu.alertUUID", "host"), ("usage.error", "range:[0,90]")]

def usageEvent (usage : Signed 64) : Event where
  topic := "decanter/collect/cpu"
  properties := .ofList [("type", .text "cpu"), ("host", .text "A"), ("usage", .long usage)]

/-- The usage of a processor on a host. -/
def usageOn (host : String) (usage : Signed 64) : Event where
  topic := "decanter/collect/cpu"
  properties := .ofList [("type", .text "cpu"), ("host", .text host), ("usage", .long usage)]

/-- An alert is cleared after its rule is gone, because hosts are still told apart. -/
theorem raised_clears_without_rule :
    let start := Checker.settle ⟨usageRules, {}⟩ (Checker.handle ⟨usageRules, {}⟩ (usageEvent ⟨95, by decide⟩))
    let later := (start.run [.update (.ofList [("cpu.alertUUID", "host")])]).1
    "cpu-usage-A" ∈ start.store.alerting .error ∧
      "cpu-usage-A" ∉ (later.handle (usageEvent ⟨99, by decide⟩)).store.alerting .error := by
  have identity : (usageEvent ⟨95, by decide⟩).identity usageRules (some "cpu") "usage" = "cpu-usage-A" := by
    decide +kernel
  have typed : (usageEvent ⟨95, by decide⟩).type? = some "cpu" := by decide +kernel
  refine ⟨by decide +kernel, ?_⟩
  have clears := (raised_clears_iff ⟨usageRules, {}⟩ (usageEvent ⟨95, by decide⟩)
    (usageEvent ⟨99, by decide⟩) (.ofList [("cpu.alertUUID", "host")]) "usage" .error
    (.long ⟨99, by decide⟩) (by decide +kernel) (by decide +kernel) ?_ ?_ (by decide +kernel) ?_).2 ?_
    [.update (.ofList [("cpu.alertUUID", "host")])] rfl
  · rw [typed, identity] at clears
    exact clears
  · intro type same
    obtain rfl : "cpu" = type := Option.some.inj (typed.symm.trans same)
    decide +kernel
  · intro other different
    simp [usageEvent, OrderedMap.ofList, OrderedMap.insertAll, OrderedMap.get?_insert, different]
  · intro pattern found
    have none : Rules.patternFor? (.ofList [("cpu.alertUUID", "host")]) "usage"
      (usageEvent ⟨99, by decide⟩).type? .error = none := by decide +kernel
    rw [none] at found
    cases found
  · intro type same
    obtain rfl : "cpu" = type := Option.some.inj (typed.symm.trans same)
    decide +kernel

/-- Hosts are no longer told apart after an alert was raised, and the alert stays. -/
theorem renamed_identity_stays :
    let fewer : Rules := .ofList [("usage.error", "range:[0,90]")]
    let raised := Checker.run ⟨usageRules, {}⟩ [.handle (usageEvent ⟨95, by decide⟩)]
    let after := raised.1.run [.update fewer, .handle (usageEvent ⟨10, by decide⟩)]
    (raised.2.map fun a => (a.identity, a.level, a.backToNormal)) =
        [((usageEvent ⟨95, by decide⟩).identity usageRules (some "cpu") "usage", .error, false)] ∧
      fewer.patternFor? "usage" (some "cpu") .error = some "range:[0,90]" ∧
      ((Value.long ⟨10, by decide⟩).complies "range:[0,90]").value = true ∧
      (usageEvent ⟨95, by decide⟩).identity usageRules (some "cpu") "usage" ∈
        after.1.store.alerting .error := by
  decide +kernel

end EdgeAlert.Checker
