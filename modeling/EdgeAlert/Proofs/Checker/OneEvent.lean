import Mathlib.Data.Finset.Card
import Mathlib.Data.Finset.SymmDiff
import Mathlib.Data.List.Count
import Mathlib.Tactic.Tauto
import EdgeAlert.Proofs.Checker.Identity
import EdgeAlert.Proofs.Checker.Observation

/-!
# One event

The attributes of an event have different identities, so the watched identity is seen at most once
while an event is handled. What the event makes of the store is then a closed form that does not
depend on the order of the attributes, and no change is posted twice.
-/

namespace EdgeAlert

open scoped symmDiff

namespace Checker

variable {checker : Checker} {event : Event} {x : String} {s : Severity}

/-! ### The observations of an event -/

theorem mem_observed {rules : Rules} {o : Observation} :
    o ∈ event.observed rules ↔
      o.rules = rules ∧ o.event = event ∧ event.properties.get? o.name = some o.value := by
  rw [OrderedMap.get?_eq_some_iff, Event.observed, List.mem_map]
  constructor
  · rintro ⟨⟨name, value⟩, member, rfl⟩
    exact ⟨rfl, rfl, member⟩
  · rintro ⟨rfl, rfl, member⟩
    exact ⟨_, member, rfl⟩

theorem observed_identities (event : Event) (rules : Rules) :
    (event.observed rules).map Observation.identity =
      event.properties.names.map (event.identity rules event.type?) := by
  simp only [Event.observed, OrderedMap.names, List.map_map]
  rfl

theorem unobserved_iff {rules : Rules} :
    (∀ o ∈ event.observed rules, o.identity ≠ x) ↔
      ∀ name ∈ event.properties.names, event.identity rules event.type? name ≠ x := by
  have same := observed_identities event rules
  constructor
  · intro absent name member here
    have present : x ∈ (event.observed rules).map Observation.identity := by
      rw [same, ← here]
      exact List.mem_map_of_mem member
    obtain ⟨o, member, identity⟩ := List.mem_map.mp present
    exact absent o member identity
  · intro absent o member here
    have present : x ∈ event.properties.names.map (event.identity rules event.type?) := by
      rw [← same, ← here]
      exact List.mem_map_of_mem member
    obtain ⟨name, member, identity⟩ := List.mem_map.mp present
    exact absent name member identity

theorem observed_or_not (event : Event) (rules : Rules) (x : String) :
    (∃ o ∈ event.observed rules, o.identity = x) ∨ ∀ o ∈ event.observed rules, o.identity ≠ x := by
  by_cases seen : ∃ o ∈ event.observed rules, o.identity = x
  · exact Or.inl seen
  · exact Or.inr fun o member same => seen ⟨o, member, same⟩

theorem observed_once {rules : Rules} {o : Observation} (member : o ∈ event.observed rules) :
    (event.observed rules).filter (fun o' => o'.identity = o.identity) = [o] := by
  have unique := event.identities_nodup rules event.type?
  rw [← observed_identities] at unique
  generalize event.observed rules = all at member unique
  induction all with
  | nil => cases member
  | cons first rest ih =>
    obtain ⟨fresh, unique⟩ := List.nodup_cons.mp unique
    rcases List.mem_cons.mp member with rfl | member
    · have none : rest.filter (fun o' => o'.identity = o.identity) = [] := by
        refine List.filter_eq_nil_iff.mpr fun o' here same => ?_
        exact fresh (of_decide_eq_true same ▸ List.mem_map_of_mem here)
      rw [List.filter_cons, if_pos (decide_eq_true rfl), none]
    · have different : first.identity ≠ o.identity :=
        fun same => fresh (same ▸ List.mem_map_of_mem member)
      rw [List.filter_cons, if_neg (by simpa using different), ih member unique]

theorem observed_never {rules : Rules} (absent : ∀ o ∈ event.observed rules, o.identity ≠ x) :
    (event.observed rules).filter (fun o => o.identity = x) = [] :=
  List.filter_eq_nil_iff.mpr fun o member same => absent o member (of_decide_eq_true same)

/-! ### What becomes of one identity -/

/-- An identity that the event observes is known exactly if the observation is alerting. -/
theorem handle_observed {o : Observation} (member : o ∈ event.observed checker.rules)
    (s : Severity) :
    (checker.handle event).store.known o.identity s = o.alerting s ∧
      (checker.handle event).alerts.filter (fun a => a.identity = o.identity ∧ a.level = s) =
        if o.alerting s = checker.store.known o.identity s then [] else [o.alert s] := by
  have watched := handle_watched checker event o.identity s
  rw [observed_once member] at watched
  exact watched

theorem handle_unobserved (absent : ∀ o ∈ event.observed checker.rules, o.identity ≠ x)
    (s : Severity) :
    (checker.handle event).store.known x s = checker.store.known x s ∧
      (checker.handle event).alerts.filter (fun a => a.identity = x ∧ a.level = s) = [] := by
  have watched := handle_watched checker event x s
  rw [observed_never absent] at watched
  exact watched

theorem handle_known_iff (checker : Checker) (event : Event) (x : String) (s : Severity) :
    (checker.handle event).store.known x s = true ↔
      (∃ o ∈ event.observed checker.rules, o.identity = x ∧ o.alerting s = true) ∨
        (∀ o ∈ event.observed checker.rules, o.identity ≠ x) ∧ checker.store.known x s = true := by
  rcases observed_or_not event checker.rules x with ⟨o, member, rfl⟩ | absent
  · rw [(handle_observed member s).1]
    constructor
    · exact fun alerting => Or.inl ⟨o, member, rfl, alerting⟩
    · rintro (⟨o', member', same, alerting⟩ | ⟨absent, -⟩)
      · have once := observed_once member
        have here : o' ∈ (event.observed checker.rules).filter (fun o' => o'.identity = o.identity) :=
          List.mem_filter.mpr ⟨member', decide_eq_true same⟩
        rw [once, List.mem_singleton] at here
        exact here ▸ alerting
      · exact absurd rfl (absent o member)
  · rw [(handle_unobserved absent s).1]
    constructor
    · exact fun known => Or.inr ⟨absent, known⟩
    · rintro (⟨o, member, same, -⟩ | ⟨-, known⟩)
      · exact absurd same (absent o member)
      · exact known

/-! ### The alerts -/

theorem posted_iff (checker : Checker) (event : Event) (x : String) (s : Severity) :
    (∃ a ∈ (checker.handle event).alerts, a.identity = x ∧ a.level = s) ↔
      checker.store.known x s ≠ (checker.handle event).store.known x s := by
  have nonempty : (∃ a ∈ (checker.handle event).alerts, a.identity = x ∧ a.level = s) ↔
      (checker.handle event).alerts.filter (fun a => a.identity = x ∧ a.level = s) ≠ [] := by
    simp [List.filter_eq_nil_iff]
  rw [nonempty]
  rcases observed_or_not event checker.rules x with ⟨o, member, rfl⟩ | absent
  · obtain ⟨known, posted⟩ := handle_observed member s
    rw [known, posted]
    by_cases same : o.alerting s = checker.store.known o.identity s
    · simp [same]
    · simp [same, Ne.symm same]
  · obtain ⟨known, posted⟩ := handle_unobserved absent s
    rw [known, posted]
    simp

theorem posted_once (checker : Checker) (event : Event) :
    ((checker.handle event).alerts.map fun a => (a.identity, a.level)).Nodup := by
  refine List.nodup_iff_count_le_one.mpr ?_
  rintro ⟨x, s⟩
  have counted : ((checker.handle event).alerts.map fun a => (a.identity, a.level)).count (x, s) =
      ((checker.handle event).alerts.filter (fun a => a.identity = x ∧ a.level = s)).length := by
    rw [List.count, List.countP_map, List.countP_eq_length_filter]
    congr 2
    funext a
    rw [Bool.eq_iff_iff]
    simp
  rw [counted]
  rcases observed_or_not event checker.rules x with ⟨o, member, rfl⟩ | absent
  · rw [(handle_observed member s).2]
    split <;> simp
  · rw [(handle_unobserved absent s).2]
    simp

def posted (checker : Checker) (event : Event) (s : Severity) : List String :=
  ((checker.handle event).alerts.filter fun a => a.level = s).map Alert.identity

theorem posted_nodup (checker : Checker) (event : Event) (s : Severity) :
    (checker.posted event s).Nodup := by
  have kept : ((checker.handle event).alerts.filter fun a => a.level = s).Sublist
    (checker.handle event).alerts := List.filter_sublist
  have pairs := (posted_once checker event).sublist (kept.map fun a => (a.identity, a.level))
  have paired : ((checker.handle event).alerts.filter fun a => a.level = s).map
      (fun a => (a.identity, a.level)) = (checker.posted event s).map (fun x => (x, s)) := by
    rw [posted, List.map_map]
    refine List.map_congr_left fun a member => ?_
    rw [of_decide_eq_true (List.mem_filter.mp member).2]
    rfl
  rw [paired] at pairs
  exact pairs.of_map _

theorem posted_toFinset (checker : Checker) (event : Event) (s : Severity) :
    (checker.store.alerting s).toFinset ∆ ((checker.handle event).store.alerting s).toFinset =
      (checker.posted event s).toFinset := by
  ext x
  have changed := posted_iff checker event x s
  rw [Ne, Bool.eq_iff_iff, Store.known_iff, Store.known_iff] at changed
  rw [Finset.mem_symmDiff, IdentitySet.mem_toFinset, IdentitySet.mem_toFinset, List.mem_toFinset,
    posted, List.mem_map]
  constructor
  · intro either
    obtain ⟨a, member, identity, level⟩ := changed.mpr (by tauto)
    exact ⟨a, List.mem_filter.mpr ⟨member, decide_eq_true level⟩, identity⟩
  · rintro ⟨a, member, identity⟩
    obtain ⟨member, level⟩ := List.mem_filter.mp member
    have := changed.mp ⟨a, member, identity, of_decide_eq_true level⟩
    tauto

theorem posted_at (checker : Checker) (event : Event) (s : Severity) :
    ((checker.handle event).alerts.filter (fun a => a.level = s)).length =
      ((checker.store.alerting s).toFinset ∆
        ((checker.handle event).store.alerting s).toFinset).card := by
  rw [posted_toFinset, List.toFinset_card_of_nodup (posted_nodup checker event s), posted,
    List.length_map]

theorem posted_total (checker : Checker) (event : Event) :
    (checker.handle event).alerts.length =
      ((checker.store.alerting .error).toFinset ∆
        ((checker.handle event).store.alerting .error).toFinset).card +
      ((checker.store.alerting .warn).toFinset ∆
        ((checker.handle event).store.alerting .warn).toFinset).card := by
  rw [← posted_at, ← posted_at]
  rw [List.length_eq_length_filter_add (fun a : Alert => a.level = .error)]
  congr 2
  refine List.filter_congr fun a _ => ?_
  cases a.level <;> rfl

/-! ### The same event again -/

theorem handle_again (checker : Checker) (event : Event) :
    let reaction := checker.handle event
    ((checker.settle reaction).handle event).alerts = [] ∧
      ((checker.settle reaction).handle event).store = reaction.store := by
  have stays : ∀ x s, ((checker.settle (checker.handle event)).handle event).store.known x s =
      (checker.handle event).store.known x s := by
    intro x s
    rcases observed_or_not event checker.rules x with ⟨o, member, rfl⟩ | absent
    · have again : o ∈ event.observed (checker.settle (checker.handle event)).rules := member
      exact (handle_observed again s).1.trans (handle_observed member s).1.symm
    · have again : ∀ o ∈ event.observed (checker.settle (checker.handle event)).rules,
          o.identity ≠ x := absent
      exact (handle_unobserved again s).1
  refine ⟨?_, Store.ext_known stays⟩
  refine List.eq_nil_iff_forall_not_mem.mpr fun a member => ?_
  have changed := (posted_iff (checker.settle (checker.handle event)) event a.identity a.level).mp
    ⟨a, member, rfl, rfl⟩
  exact changed (stays a.identity a.level).symm

/-! ### The closed form -/

/-- What one event does, whatever the rules, the store and the order of its attributes. -/
theorem handle_closed_form (checker : Checker) (event : Event) :
    let identity := event.identity checker.rules event.type?
    let reaction := checker.handle event
    let again := (checker.settle reaction).handle event
    (event.properties.names.map identity).Nodup ∧
      (reaction.alerts.map fun a => (a.identity, a.level)).Nodup ∧
      (∀ x s, x ∈ reaction.store.alerting s ↔
        (∃ name value pattern, event.properties.get? name = some value ∧ identity name = x ∧
          checker.rules.patternFor? name event.type? s = some pattern ∧
          value.verdict pattern = .ok false) ∨
        (∀ name ∈ event.properties.names, identity name ≠ x) ∧ x ∈ checker.store.alerting s) ∧
      reaction.changes = reaction.alerts.length ∧
      reaction.changes =
        ((checker.store.alerting .error).toFinset ∆ (reaction.store.alerting .error).toFinset).card +
        ((checker.store.alerting .warn).toFinset ∆ (reaction.store.alerting .warn).toFinset).card ∧
      again.alerts = [] ∧ again.changes = 0 ∧ again.store = reaction.store := by
  obtain ⟨silent, unchanged⟩ := handle_again checker event
  have counted := handle_changes checker event
  refine ⟨event.identities_nodup _ _, posted_once checker event, fun x s => ?_, counted,
    counted.trans (posted_total checker event), silent, ?_, unchanged⟩
  · rw [← Store.known_iff, ← Store.known_iff, handle_known_iff]
    refine or_congr ⟨?_, ?_⟩ (and_congr_left fun _ => ?_)
    · rintro ⟨⟨rules, event', name, value⟩, member, same, alerting⟩
      obtain ⟨rfl, rfl, present⟩ := mem_observed.mp member
      obtain ⟨pattern, found, refused⟩ := Observation.alerting_iff.mp alerting
      exact ⟨name, value, pattern, present, same, found, refused⟩
    · rintro ⟨name, value, pattern, present, same, found, refused⟩
      exact ⟨{ rules := checker.rules, event, name, value }, mem_observed.mpr ⟨rfl, rfl, present⟩,
        same, Observation.alerting_iff.mpr ⟨pattern, found, refused⟩⟩
    · exact unobserved_iff
  · rw [handle_changes, silent, List.length_nil]

end Checker
end EdgeAlert
