import EdgeAlert.Proofs.Checker.Clearing
import EdgeAlert.Proofs.Checker.Noninterference

/-!
# Interleaved streams

Several streams of events that share one checker and have no identity in common. `streams_independent`:
in whatever order their events come, each stream brings about the alerts that it would bring about
alone, and the store is the same in the end.
-/

namespace EdgeAlert

def Event.identities (event : Event) (rules : Rules) : List String :=
  event.properties.names.map (event.identity rules event.type?)

namespace Checker

variable {Stream : Type} {j k : Stream} {view : View} {checker a b : Checker} {event : Event}
  {merged other : List (Stream × Event)} {x : String}

/-! ### Identities of an event -/

theorem handle_elsewhere (absent : x ∉ event.identities checker.rules) (s : Severity) :
    (checker.handle event).store.known x s = checker.store.known x s ∧
      (checker.handle event).alerts.filter (fun a => a.identity = x ∧ a.level = s) = [] := by
  refine handle_unobserved (unobserved_iff.mpr fun name held same => absent ?_) s
  exact List.mem_map.mpr ⟨name, held, same⟩

theorem identity_of_posted {alert : Alert} (posted : alert ∈ (checker.handle event).alerts) :
    alert.identity ∈ event.identities checker.rules := by
  by_contra absent
  have none := (handle_elsewhere absent alert.level).2
  exact List.filter_eq_nil_iff.mp none alert posted (by simp)

theorem filter_posted (watched : ∀ x ∈ event.identities checker.rules, ∀ s, view x s = true) :
    (checker.handle event).alerts.filter (Alert.isIn view) = (checker.handle event).alerts :=
  List.filter_eq_self.mpr fun _ posted => watched _ (identity_of_posted posted) _

/-! ### Streams -/

def handling (merged : List (Stream × Event)) : List Call := merged.map fun entry => .handle entry.2

def alertsByStream (checker : Checker) : List (Stream × Event) → List (Stream × Alert)
  | [] => []
  | (j, event) :: rest =>
    (checker.handle event).alerts.map (fun alert => (j, alert)) ++
      alertsByStream (checker.settle (checker.handle event)) rest

theorem alertsByStream_run (checker : Checker) (merged : List (Stream × Event)) :
    (alertsByStream checker merged).map Prod.snd = (checker.run (handling merged)).2 := by
  induction merged generalizing checker with
  | nil => rfl
  | cons entry rest ih =>
    obtain ⟨j, event⟩ := entry
    have alerts : ((checker.handle event).alerts.map fun alert => (j, alert)).map Prod.snd =
        (checker.handle event).alerts := by simp
    rw [alertsByStream, List.map_append, alerts, ih]
    rfl

theorem run_elsewhere (checker : Checker)
    (absent : ∀ entry ∈ merged, x ∉ entry.2.identities checker.rules) (s : Severity) :
    (checker.run (handling merged)).1.store.known x s = checker.store.known x s := by
  induction merged generalizing checker with
  | nil => rfl
  | cons entry rest ih =>
    obtain ⟨here, others⟩ := List.forall_mem_cons.mp absent
    exact (ih (checker.settle (checker.handle entry.2)) others).trans (handle_elsewhere here s).1

/-- What is watched is what one of the streams is about. -/
structure Watches (view : View) (k : Stream) (rules : Rules) (merged : List (Stream × Event)) : Prop where
  own : ∀ event, (k, event) ∈ merged → ∀ x ∈ event.identities rules, ∀ s, view x s = true
  foreign : ∀ j event, (j, event) ∈ merged → j ≠ k → ∀ x ∈ event.identities rules, ∀ s, view x s = false

theorem Watches.of_cons {entry : Stream × Event} {rules : Rules}
    (watches : Watches view k rules (entry :: merged)) : Watches view k rules merged :=
  ⟨fun event held => watches.own event (List.mem_cons_of_mem _ held),
    fun j event held => watches.foreign j event (List.mem_cons_of_mem _ held)⟩

variable [DecidableEq Stream]

def ofStream {α : Type} (k : Stream) (entries : List (Stream × α)) : List α :=
  (entries.filter fun entry => entry.1 = k).map Prod.snd

section OfStream

variable {α : Type} {y : α} {entries : List (Stream × α)}

theorem mem_ofStream : y ∈ ofStream k entries ↔ (k, y) ∈ entries := by
  unfold ofStream
  constructor
  · intro member
    obtain ⟨⟨j, y⟩, kept, rfl⟩ := List.mem_map.mp member
    obtain ⟨held, same⟩ := List.mem_filter.mp kept
    obtain rfl : j = k := of_decide_eq_true same
    exact held
  · exact fun held => List.mem_map.mpr ⟨(k, y), List.mem_filter.mpr ⟨held, by simp⟩, rfl⟩

theorem ofStream_cons_self : ofStream k ((k, y) :: entries) = y :: ofStream k entries := by
  simp [ofStream]

theorem ofStream_cons_of_ne (different : j ≠ k) : ofStream k ((j, y) :: entries) = ofStream k entries := by
  simp [ofStream, different]

theorem ofStream_map_append (ys : List α) :
    ofStream k (ys.map (fun y => (j, y)) ++ entries) =
      (if j = k then ys else []) ++ ofStream k entries := by
  induction ys with
  | nil => simp
  | cons y ys ih =>
    rw [List.map_cons, List.cons_append]
    by_cases here : j = k
    · subst here
      rw [ofStream_cons_self, ih, if_pos rfl, if_pos rfl, List.cons_append]
    · rw [ofStream_cons_of_ne here, ih, if_neg here, if_neg here]

end OfStream

theorem stream_alone (rules : b.rules = a.rules) (same : a.store.SameIn view b.store)
    (watches : Watches view k a.rules merged) :
    let alone := b.run ((ofStream k merged).map .handle)
    ofStream k (alertsByStream a merged) = alone.2 ∧
      (a.run (handling merged)).1.store.SameIn view alone.1.store := by
  induction merged generalizing a b with
  | nil => exact ⟨rfl, same⟩
  | cons entry rest ih =>
    obtain ⟨j, event⟩ := entry
    rw [alertsByStream, ofStream_map_append]
    by_cases here : j = k
    · subst here
      have own := watches.own event List.mem_cons_self
      have alike : event.AlikeUnder view a.rules b.rules := by
        rw [rules]
        exact ⟨fun _ _ => rfl, fun _ _ _ _ => rfl⟩
      have reacted := handle_watching a b same alike
      have alerts := reacted.alerts
      rw [filter_posted own, filter_posted (rules ▸ own)] at alerts
      obtain ⟨posted, left⟩ := ih (a := a.settle (a.handle event)) (b := b.settle (b.handle event)) rules
        reacted.store watches.of_cons
      rw [if_pos rfl, ofStream_cons_self, posted, alerts]
      exact ⟨rfl, left⟩
    · -- An event of another stream posts nothing of this one and leaves alone what is watched.
      have unseen : (a.handle event).store.SameIn view b.store := by
        intro y t seen
        have absent : y ∉ event.identities a.rules := by
          intro member
          rw [watches.foreign j event List.mem_cons_self here y member t] at seen
          cases seen
        rw [(handle_elsewhere absent t).1]
        exact same y t seen
      rw [if_neg here, List.nil_append, ofStream_cons_of_ne here]
      exact ih (a := a.settle (a.handle event)) rules unseen watches.of_cons

/-- No event has an identity in common with an event of another stream. -/
def Apart (rules : Rules) (merged : List (Stream × Event)) : Prop :=
  ∀ first ∈ merged, ∀ second ∈ merged, first.1 ≠ second.1 →
    ∀ x ∈ first.2.identities rules, x ∉ second.2.identities rules

def viewOf (k : Stream) (rules : Rules) (merged : List (Stream × Event)) : View :=
  fun x _ => (ofStream k merged).any fun event => x ∈ event.identities rules

theorem watches_viewOf {rules : Rules} (apart : Apart rules merged) (k : Stream) :
    Watches (viewOf k rules merged) k rules merged := by
  refine ⟨fun event held x member s => ?_, fun j event held different x member s => ?_⟩
  · exact List.any_eq_true.mpr ⟨event, mem_ofStream.mpr held, decide_eq_true member⟩
  · rw [viewOf, List.any_eq_false]
    intro own kept here
    exact apart _ held _ (mem_ofStream.mp kept) different x member (of_decide_eq_true here)

theorem mem_of_streams (streams : ∀ k, ofStream k other = ofStream k merged) (entry : Stream × Event) :
    entry ∈ other ↔ entry ∈ merged := by
  rw [← mem_ofStream (k := entry.1), streams, mem_ofStream]

/-- The store after a run does not depend on how the streams were interleaved. -/
theorem store_of_streams (checker : Checker) (apart : Apart checker.rules merged)
    (streams : ∀ k, ofStream k other = ofStream k merged) :
    (checker.run (handling other)).1.store = (checker.run (handling merged)).1.store := by
  apply Store.ext_known
  intro x s
  by_cases reached : ∃ entry ∈ merged, x ∈ entry.2.identities checker.rules
  · -- An identity is of one stream only, and both runs leave it as that stream does alone.
    obtain ⟨⟨k, event⟩, held, member⟩ := reached
    have watches := watches_viewOf apart k
    have watches' : Watches (viewOf k checker.rules merged) k checker.rules other :=
      ⟨fun event held => watches.own event ((mem_of_streams streams _).mp held),
        fun j event held => watches.foreign j event ((mem_of_streams streams _).mp held)⟩
    have seen := watches.own event held x member s
    have alone := (stream_alone rfl (fun _ _ _ => rfl) watches).2 x s seen
    have alone' := (stream_alone rfl (fun _ _ _ => rfl) watches').2 x s seen
    rw [streams] at alone'
    exact alone'.trans alone.symm
  · have absent : ∀ entry ∈ merged, x ∉ entry.2.identities checker.rules :=
      fun entry held member => reached ⟨entry, held, member⟩
    have absent' : ∀ entry ∈ other, x ∉ entry.2.identities checker.rules :=
      fun entry held => absent entry ((mem_of_streams streams entry).mp held)
    exact (run_elsewhere checker absent' s).trans (run_elsewhere checker absent s).symm

/-- Streams that have no identity in common can be interleaved freely. -/
theorem streams_independent (checker : Checker) (merged : List (Stream × Event))
    (apart : Apart checker.rules merged) :
    let alerts := alertsByStream checker merged
    alerts.map Prod.snd = (checker.run (handling merged)).2 ∧
      (∀ k, ofStream k alerts = (checker.run ((ofStream k merged).map .handle)).2) ∧
      ∀ other : List (Stream × Event), (∀ k, ofStream k other = ofStream k merged) →
        (checker.run (handling other)).1.store = (checker.run (handling merged)).1.store :=
  ⟨alertsByStream_run checker merged,
    fun k => (stream_alone rfl (fun _ _ _ => rfl) (watches_viewOf apart k)).1,
    fun _ streams => store_of_streams checker apart streams⟩

theorem two_hosts_independent :
    let checker : Checker := ⟨usageRules, {}⟩
    let busy (host : String) := (host, usageOn host ⟨95, by decide⟩)
    let idle (host : String) := (host, usageOn host ⟨10, by decide⟩)
    let merged := [busy "A", busy "B", idle "A"]
    let other := [busy "B", busy "A", idle "A"]
    Apart checker.rules merged ∧
      ((checker.run (handling merged)).2.map fun a => (a.identity, a.backToNormal)) =
        [("cpu-usage-A", false), ("cpu-usage-B", false), ("cpu-usage-A", true)] ∧
      ofStream "A" (alertsByStream checker merged) =
        (checker.run [.handle (busy "A").2, .handle (idle "A").2]).2 ∧
      (checker.run (handling other)).1.store = (checker.run (handling merged)).1.store := by
  intro checker busy idle merged other
  have apart : Apart checker.rules merged := by
    unfold Apart
    decide +kernel
  obtain ⟨-, alone, anyOrder⟩ := streams_independent checker merged apart
  have streams : ∀ k, ofStream k other = ofStream k merged := by
    intro k
    by_cases first : "A" = k
    · subst first
      rfl
    · simp [ofStream, List.filter_cons, other, merged, busy, idle, first]
  exact ⟨apart, by decide +kernel, alone "A", anyOrder other streams⟩

end Checker
end EdgeAlert
