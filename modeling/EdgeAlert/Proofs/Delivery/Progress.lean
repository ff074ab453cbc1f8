import EdgeAlert.Proofs.Delivery.Relay

/-!
# Stopping comes to an end

However the turns are dealt out, a service and its consumer take at most so many of them, and until the
consumer has left one of the two has something to do. So every schedule can be continued to one under
which the consumer leaves, which is what stopping the service waits for.
-/

namespace EdgeAlert

variable {weight : Nat}

/-- At most so many turns go to some checks of an event and to the alerts that come of them, an alert
taking `weight` turns. -/
def checkTurns (weight checks : Nat) : Nat := checks * (weight + 1) + 1

def eventTurns (weight : Nat) (event : Event) : Nat :=
  checkTurns weight (Checker.observations event).length + 1

def lineTurns (weight : Nat) (line : List UInt8) : Nat :=
  match Text.ofUtf8? line with
  | none => 1
  | some text => match Intake.Line.read text with
    | .event event => eventTurns weight event
    | .passedOver | .unreadable => 1

def Reading.turns (weight : Nat) (intake : Reading) : Nat := (intake.lines.map (lineTurns weight)).sum + 1

def Request.turns (weight : Nat) : Request → Nat
  | .handle event => eventTurns weight event
  | .update _ => 1
  | .intake bytes => Reading.turns weight { lines := Intake.inputLines bytes } + 1

/-- The turns for some requests, for saving the store, and for announcing that no alerts are to come. -/
def Request.allTurns (weight : Nat) (requests : List Request) : Nat := (requests.map (turns weight)).sum + 2

namespace Stage

def turns (weight : Nat) : Stage → Nat
  | .free requests => Request.allTurns weight requests
  | .reading intake requests => intake.turns weight + Request.allTurns weight requests
  | .checking event source requests =>
    checkTurns weight event.left.length + (source.map (Reading.turns weight)).getD 0 +
      Request.allTurns weight requests
  | .saved _ => 1
  | .released _ => 0

variable {checker : Checker} {stage : Stage} {done : Work}

theorem allTurns_cons (request : Request) (requests : List Request) :
    Request.allTurns weight (request :: requests) =
      request.turns weight + Request.allTurns weight requests := by
  simp [Request.allTurns, Nat.add_assoc]

theorem turns_cons (line : List UInt8) (intake : Reading) :
    Reading.turns weight { intake with lines := line :: intake.lines } =
      lineTurns weight line + intake.turns weight := by
  simp [Reading.turns, Nat.add_assoc]

theorem check_turns (event : Checking) (one : String × Value × Severity) (source : Option Reading)
    (requests : List Request) :
    let done := check checker event one source requests
    done.stage.turns weight + done.alerts.length * weight + 1 ≤
      turns weight (.checking { event with left := one :: event.left } source requests) := by
  obtain ⟨-, alerts, -⟩ :=
    Checker.observe_spec ⟨event.rules, event.event, one.1, one.2.1⟩ one.2.2 checker.store
  have single : (check checker event one source requests).alerts.length ≤ 1 := by
    rw [check, alerts]
    split
    · exact Nat.zero_le _
    · exact Nat.le_refl _
  have taken := Nat.mul_le_mul_right weight single
  dsimp only [check, turns, checkTurns, List.length_cons] at taken ⊢
  rw [Nat.succ_mul]
  omega

theorem readLine_turns (line : List UInt8) (intake : Reading) (requests : List Request) :
    let done := readLine checker line intake requests
    done.stage.turns weight + done.alerts.length * weight + 1 ≤
      turns weight (.reading { intake with lines := line :: intake.lines } requests) := by
  dsimp only [turns]
  rw [turns_cons]
  unfold readLine lineTurns
  cases Text.ofUtf8? line with
  | none =>
    dsimp only [turns, List.length_nil]
    omega
  | some text =>
    dsimp only
    cases Intake.Line.read text with
    | event event =>
      dsimp only [begin, turns, eventTurns, List.length_nil, Option.map_some, Option.getD_some, Reading.turns]
      omega
    | passedOver | unreadable =>
      dsimp only [turns, List.length_nil, Reading.turns]
      omega

theorem conclude_turns (rules : Rules) (event : Event) (changes : Nat) (source : Option Reading)
    (requests : List Request) :
    let done := conclude checker changes source requests
    done.stage.turns weight + done.alerts.length * weight + 1 ≤
      turns weight (.checking ⟨rules, event, [], changes⟩ source requests) := by
  cases source with
  | none =>
    simp only [conclude, turns, checkTurns, List.length_nil, Option.map_none, Option.getD_none]
    omega
  | some intake =>
    simp only [conclude, turns, checkTurns, Reading.turns, List.length_nil, Option.map_some,
      Option.getD_some]
    omega

theorem work_turns (worked : work checker stage = some done) :
    done.stage.turns weight + done.alerts.length * weight + 1 ≤ stage.turns weight := by
  revert worked
  fun_cases work checker stage with
  | case1 =>
    rintro ⟨⟩
    simp [turns, Request.allTurns]
  | case2 event requests =>
    rintro ⟨⟩
    simp only [turns, allTurns_cons, begin, Request.turns, eventTurns, List.length_nil, Option.map_none,
      Option.getD_none]
    omega
  | case3 | case4 =>
    rintro ⟨⟩
    simp only [turns, allTurns_cons, Request.turns, List.length_nil]
    omega
  | case5 counts requests =>
    rintro ⟨⟩
    simp only [turns, Reading.turns, List.length_nil, List.map_nil, List.sum_nil]
    omega
  | case6 line lines counts requests =>
    rintro ⟨⟩
    exact readLine_turns line ⟨lines, counts⟩ requests
  | case7 rules event one left changes source requests =>
    rintro ⟨⟩
    exact check_turns ⟨rules, event, left, changes⟩ one source requests
  | case8 rules event changes source requests =>
    rintro ⟨⟩
    exact conclude_turns rules event changes source requests
  | case9 store =>
    rintro ⟨⟩
    simp [turns]
  | case10 =>
    intro worked
    cases worked

theorem exists_work (checker : Checker) (busy : ∀ store, stage ≠ .released store) :
    (work checker stage).isSome = true := by
  fun_cases work checker stage with
  | case10 store => exact absurd rfl (busy store)
  | _ => rfl

end Stage

def Consumer.Stage.turns (handlers : Nat) : Consumer.Stage → Nat
  | .waiting => 1
  | .handing _ next => handlers - next + 2
  | .finished _ => 0

namespace Relay

variable {σ : Type} {handlers : List (Handler σ)} {r next last : Relay σ} {schedule : List Turn}

/-- At most so many turns are left. An alert takes one for each handler and two for its way through the
hand of the consumer. -/
def turns (handlers : Nat) (r : Relay σ) : Nat :=
  r.stage.turns (handlers + 2) + r.service.channel.pending.length * (handlers + 2) +
    r.consumer.stage.turns handlers

theorem turns_work {now : Timestamp} (worked : r.work now = some next) :
    next.turns handlers.length + 1 ≤ r.turns handlers.length := by
  obtain ⟨done, ran, rfl⟩ := Option.map_eq_some_iff.mp worked
  have stage := @Stage.work_turns (handlers.length + 2) _ _ _ ran
  let before : Noted Service := { value := { r.service with checker := done.checker } }
  have pending : (done.alerts.foldl (Service.post now) before).value.channel.pending.length ≤
      r.service.channel.pending.length + done.alerts.length :=
    Service.foldl_post_length_le now done.alerts before
  have weighed := Nat.mul_le_mul_right (handlers.length + 2) pending
  rw [Nat.add_mul] at weighed
  dsimp only [turns, before] at weighed ⊢
  omega

theorem turns_receive (stage : r.consumer.stage = .waiting) (received : r.receive = some next) :
    next.turns handlers.length + 1 ≤ r.turns handlers.length := by
  unfold receive at received
  cases pending : r.service.channel.pending with
  | cons alert rest =>
    rw [pending] at received
    obtain rfl := Option.some.inj received
    dsimp only [turns]
    rw [stage, pending, List.length_cons, Nat.succ_mul]
    dsimp only [Consumer.Stage.turns]
    omega
  | nil =>
    rw [pending] at received
    dsimp only at received
    split at received
    · obtain rfl := Option.some.inj received
      dsimp only [turns]
      rw [stage]
      exact Nat.le_refl _
    · cases received

theorem turns_handOn {alert : StampedAlert} {number : Nat}
    (stage : r.consumer.stage = .handing alert number) :
    (r.handOn handlers alert number).turns handlers.length + 1 ≤ r.turns handlers.length := by
  unfold handOn
  cases found : handlers[number]? with
  | some handler =>
    obtain ⟨inside, -⟩ := List.getElem?_eq_some_iff.mp found
    dsimp only [turns]
    rw [stage]
    dsimp only [Consumer.Stage.turns]
    omega
  | none =>
    dsimp only [turns]
    rw [stage]
    dsimp only [Consumer.Stage.turns]
    omega

theorem turns_turn {turn : Turn} (taken : r.turn handlers turn = some next) :
    next.turns handlers.length + 1 ≤ r.turns handlers.length := by
  cases turn with
  | work now => exact turns_work taken
  | consume =>
    unfold Relay.turn consume at taken
    cases stage : r.consumer.stage with
    | waiting =>
      rw [stage] at taken
      exact turns_receive stage taken
    | handing alert number =>
      rw [stage] at taken
      obtain rfl := Option.some.inj taken
      exact turns_handOn stage
    | finished count =>
      rw [stage] at taken
      cases taken

theorem length_run_le (ran : r.run handlers schedule = some last) :
    schedule.length + last.turns handlers.length ≤ r.turns handlers.length := by
  induction schedule generalizing r with
  | nil =>
    obtain rfl := Option.some.inj ran
    exact Nat.le_of_eq (Nat.zero_add _)
  | cons turn rest ih =>
    obtain ⟨next, taken, ran⟩ := Option.bind_eq_some_iff.mp ran
    have here := turns_turn taken
    have there := ih ran
    rw [List.length_cons]
    omega

theorem exists_turn (handlers : List (Handler σ))
    (staying : ∀ count, r.consumer.stage ≠ .finished count) :
    ∃ turn next, r.turn handlers turn = some next := by
  by_cases busy : ∀ store, r.stage ≠ .released store
  · obtain ⟨done, ran⟩ := Option.isSome_iff_exists.mp (Stage.exists_work r.service.checker busy)
    exact ⟨.work ⟨0, 0⟩, _, congrArg (Option.map _) ran⟩
  · obtain ⟨store, released⟩ := not_forall_not.mp busy
    refine ⟨.consume, ?_⟩
    unfold Relay.turn consume
    cases stage : r.consumer.stage with
    | waiting =>
      unfold receive
      cases r.service.channel.pending with
      | cons alert rest => exact ⟨_, rfl⟩
      | nil =>
        dsimp only
        rw [released]
        exact ⟨_, rfl⟩
    | handing alert number => exact ⟨_, rfl⟩
    | finished count => exact absurd stage (staying count)

/-- No schedule goes on for ever, and from wherever one has come the consumer can be made to leave. -/
theorem comes_to_end (handlers : List (Handler σ)) (r : Relay σ) :
    (∀ schedule last, r.run handlers schedule = some last → schedule.length ≤ r.turns handlers.length) ∧
      ∃ schedule last count, r.run handlers schedule = some last ∧ last.consumer.stage = .finished count := by
  refine ⟨fun schedule last ran => (Nat.le_add_right _ _).trans (length_run_le ran), ?_⟩
  induction bound : r.turns handlers.length using Nat.strong_induction_on generalizing r with
  | _ bound' ih =>
    by_cases staying : ∀ count, r.consumer.stage ≠ .finished count
    · obtain ⟨turn, next, taken⟩ := exists_turn handlers staying
      have fewer := turns_turn taken
      obtain ⟨schedule, last, count, ran, finished⟩ := ih (next.turns handlers.length) (by omega) next rfl
      exact ⟨turn :: schedule, last, count, Option.bind_eq_some_iff.mpr ⟨next, taken, ran⟩, finished⟩
    · obtain ⟨count, finished⟩ := not_forall_not.mp staying
      exact ⟨[], r, count, rfl, finished⟩

end Relay
end EdgeAlert
