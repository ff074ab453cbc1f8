import EdgeAlert.Proofs.Checker.Clearing
import EdgeAlert.Proofs.Delivery.Calls
import EdgeAlert.Proofs.Delivery.Relay

/-!
# Exactly once and in order

Whatever the schedule is, an alert that was posted is dealt with, in the hand of the consumer, or waits
in the channel; `Relay.Sound` says so, and every turn keeps it. `exactly_once` is what it comes to when
the consumer has left: each handler was called once with each alert, in the order of the changes of the
store.
-/

namespace EdgeAlert

variable {σ : Type} {handlers : List (Handler σ)} {state : σ}

/-! ### The consumer -/

/-- The calls that hand an alert to handlers, by their numbers. -/
def handings (count : Nat) (alert : StampedAlert) : List (Nat × StampedAlert) :=
  (List.range count).map fun number => (number, alert)

theorem handings_succ (count : Nat) (alert : StampedAlert) :
    handings (count + 1) alert = handings count alert ++ [(count, alert)] := by
  simp [handings, List.range_succ]

theorem filter_handings {count number : Nat} (known : number < count) (alert : StampedAlert) :
    (handings count alert).filter (fun call => call.1 = number) = [(number, alert)] := by
  have one : (List.range count).count number = 1 :=
    List.count_eq_one_of_mem List.nodup_range (List.mem_range.mpr known)
  have single : (List.range count).filter (· = number) = [number] := by
    rw [List.filter_eq, one]
    rfl
  rw [handings, List.filter_map]
  exact congrArg (List.map _) single

namespace Consumer

def Stage.inHand : Stage → List StampedAlert
  | .handing alert _ => [alert]
  | .waiting | .finished _ => []

def Stage.hasLeft : Stage → Bool
  | .finished _ => true
  | .waiting | .handing _ _ => false

/-- All handlers were called with each alert done, and those before the next one with the alert in hand. -/
inductive Dealt (handlers : List (Handler σ)) (state : σ) (done : List StampedAlert) :
    Consumer σ → Prop where
  | waiting : Dealt handlers state done
      { stage := .waiting
        consumed := .of state (Handler.calls handlers done) done.length
        handed := done.flatMap (handings handlers.length) }
  | handing {alert : StampedAlert} {next : Nat} (bound : next ≤ handlers.length) : Dealt handlers state done
      { stage := .handing alert next
        consumed := .of state
          (Handler.calls handlers done ++ (handlers.take next).map fun handler => (handler, alert)) done.length
        handed := done.flatMap (handings handlers.length) ++ handings next alert }
  | finished : Dealt handlers state done
      { stage := .finished done.length
        consumed := .of state (Handler.calls handlers done) done.length
        handed := done.flatMap (handings handlers.length) }

variable {done : List StampedAlert} {c : Consumer σ} {alert : StampedAlert} {next : Nat}

theorem Dealt.receive (dealt : c.Dealt handlers state done) (stage : c.stage = .waiting) :
    Dealt handlers state done { c with stage := .handing alert 0 } := by
  cases dealt with
  | waiting =>
    have first := @Dealt.handing σ handlers state done alert 0 (Nat.zero_le _)
    rw [handings, List.range_zero, List.map_nil, List.append_nil, List.take_zero, List.map_nil,
      List.append_nil] at first
    exact first
  | handing | finished => cases stage

theorem Dealt.hand {handler : Handler σ} (dealt : c.Dealt handlers state done)
    (stage : c.stage = .handing alert next) (found : handlers[next]? = some handler) :
    Dealt handlers state done
      { stage := .handing alert (next + 1)
        consumed := c.consumed.hand alert handler
        handed := c.handed ++ [(next, alert)] } := by
  cases dealt with
  | waiting | finished => cases stage
  | handing bound =>
    cases stage
    obtain ⟨inside, -⟩ := List.getElem?_eq_some_iff.mp found
    have further := @Dealt.handing σ handlers state done alert (next + 1) inside
    rw [List.take_add_one, found, Option.toList_some, List.map_append, ← List.append_assoc, handings_succ,
      ← List.append_assoc] at further
    rw [Consumed.hand_of]
    exact further

theorem Dealt.conclude (dealt : c.Dealt handlers state done) (stage : c.stage = .handing alert next)
    (none : handlers[next]? = none) :
    Dealt handlers state (done ++ [alert])
      { c with stage := .waiting, consumed.count := c.consumed.count + 1 } := by
  cases dealt with
  | waiting | finished => cases stage
  | handing bound =>
    cases stage
    obtain rfl : next = handlers.length := Nat.le_antisymm bound (List.getElem?_eq_none_iff.mp none)
    have whole := @Dealt.waiting σ handlers state (done ++ [alert])
    rw [Handler.calls_concat, List.length_append, List.flatMap_append, List.flatMap_singleton] at whole
    rw [List.take_length]
    exact whole

theorem Dealt.leave (dealt : c.Dealt handlers state done) (stage : c.stage = .waiting) :
    Dealt handlers state done { c with stage := .finished c.consumed.count } := by
  cases dealt with
  | waiting => exact .finished
  | handing | finished => cases stage

end Consumer

/-! ### The service and the consumer -/

namespace Relay

variable {r next : Relay σ} {done : List StampedAlert}

def soFar (r : Relay σ) : Served where
  checker := r.service.checker
  alerts := r.posted.map StampedAlert.toAlert
  reports := r.reports

/-- What has come of the requests so far and what is still to come of them. -/
def outlook (r : Relay σ) : Served := r.soFar.andThen (r.stage.serve r.service.checker)

/-- Where the posted alerts are, and what was counted for them. -/
structure Sound (handlers : List (Handler σ)) (state : σ) (done : List StampedAlert) (r : Relay σ) :
    Prop where
  dealt : r.consumer.Dealt handlers state done
  posted : r.posted = done ++ r.consumer.stage.inHand ++ r.service.channel.pending
  counted : r.returned.sum + r.stage.underway = r.posted.length
  keeps : r.stage.Keeps r.service.checker
  closed : r.service.channel.closed = r.consumer.stage.hasLeft
  left : r.consumer.stage.hasLeft = true →
    r.service.channel.pending = [] ∧ ∃ store, r.stage = .released store

theorem start_sound {service : Service} (fresh : service.channel = {}) (requests : List Request) :
    Sound handlers state [] (start service requests state) where
  dealt := .waiting
  posted := (congrArg Channel.pending fresh).symm
  counted := rfl
  keeps _ := nofun
  closed := congrArg Channel.closed fresh
  left := nofun

/-- As long as somebody takes alerts from the channel, all alerts of a turn get there. -/
theorem work_spec {now : Timestamp} (worked : r.work now = some next)
    (attended : r.service.channel.closed = false) :
    ∃ turn fresh, r.stage.work r.service.checker = some turn ∧
      fresh.map StampedAlert.toAlert = turn.alerts ∧
      next.service.checker = turn.checker ∧
      next.service.channel = { pending := r.service.channel.pending ++ fresh, closed := false } ∧
      next.stage = turn.stage ∧ next.consumer = r.consumer ∧ next.posted = r.posted ++ fresh ∧
      next.returned = r.returned ++ turn.returned ∧ next.reports = r.reports ++ turn.reports := by
  obtain ⟨turn, ran, rfl⟩ := Option.map_eq_some_iff.mp worked
  let before : Noted Service := { value := { r.service with checker := turn.checker } }
  obtain ⟨fresh, same, channel⟩ := @Service.foldl_post_channel now turn.alerts before attended
  have pending : (turn.alerts.foldl (Service.post now) before).value.channel.pending =
      r.service.channel.pending ++ fresh := congrArg Channel.pending channel
  refine ⟨turn, fresh, ran, same, Service.foldl_post_checker now turn.alerts before, channel, rfl, rfl, ?_,
    rfl, rfl⟩
  dsimp only
  rw [pending, List.drop_left]

theorem work_sound {now : Timestamp} (sound : Sound handlers state done r) (worked : r.work now = some next) :
    Sound handlers state done next ∧ next.outlook = r.outlook := by
  -- The consumer is still there, since it stays until the service is through.
  have present : r.consumer.stage.hasLeft = false := by
    refine Bool.eq_false_iff.mpr fun gone => ?_
    obtain ⟨-, store, released⟩ := sound.left gone
    rw [work, released] at worked
    cases worked
  obtain ⟨turn, fresh, ran, same, checker, channel, stage, consumer, posted, returned, reports⟩ :=
    work_spec worked (sound.closed.trans present)
  have follows := Stage.work_follows ran
  have further : next.soFar = r.soFar.andThen turn.toServed := by
    rw [soFar, checker, posted, reports, List.map_append, same]
    rfl
  refine ⟨⟨?_, ?_, ?_, ?_, ?_, ?_⟩, ?_⟩
  · rw [consumer]
    exact sound.dealt
  · rw [consumer, channel, posted, sound.posted, List.append_assoc]
  · have length : fresh.length = turn.alerts.length := by rw [← same, List.length_map]
    have before := sound.counted
    have counted := follows.counted
    rw [stage, returned, posted, List.sum_append, List.length_append, length]
    omega
  · rw [stage, checker]
    exact follows.keeps sound.keeps
  · rw [channel, consumer, present]
  · rw [consumer, present]
    exact nofun
  · rw [outlook, further, stage, checker, Served.andThen_assoc, ← follows.served]
    rfl

theorem receive_sound (sound : Sound handlers state done r) (stage : r.consumer.stage = .waiting)
    (received : r.receive = some next) : Sound handlers state done next ∧ next.outlook = r.outlook := by
  obtain ⟨dealt, posted, counted, keeps, closed, -⟩ := sound
  rw [stage] at posted closed
  unfold receive at received
  cases pending : r.service.channel.pending with
  | cons alert rest =>
    rw [pending] at received posted
    obtain rfl := Option.some.inj received
    refine ⟨⟨dealt.receive stage, ?_, counted, keeps, closed, nofun⟩, rfl⟩
    have moved : done ++ [] ++ alert :: rest = done ++ [alert] ++ rest := by simp
    exact posted.trans moved
  | nil =>
    rw [pending] at received
    dsimp only at received
    split at received
    · rename_i store released
      obtain rfl := Option.some.inj received
      have gone : r.service.channel.pending = [] ∧ ∃ store, r.stage = .released store :=
        ⟨pending, store, released⟩
      exact ⟨⟨dealt.leave stage, posted, counted, keeps, rfl, fun _ => gone⟩, rfl⟩
    · cases received

theorem handOn_sound {alert : StampedAlert} {number : Nat} (sound : Sound handlers state done r)
    (stage : r.consumer.stage = .handing alert number) :
    ∃ done', Sound handlers state done' (r.handOn handlers alert number) ∧
      (r.handOn handlers alert number).outlook = r.outlook := by
  obtain ⟨dealt, posted, counted, keeps, closed, -⟩ := sound
  rw [stage] at posted closed
  unfold handOn
  cases found : handlers[number]? with
  | some handler => exact ⟨done, ⟨dealt.hand stage found, posted, counted, keeps, closed, nofun⟩, rfl⟩
  | none =>
    refine ⟨done ++ [alert], ⟨dealt.conclude stage found, ?_, counted, keeps, closed, nofun⟩, rfl⟩
    rw [posted]
    simp [Consumer.Stage.inHand]

theorem consume_sound (sound : Sound handlers state done r) (consumed : r.consume handlers = some next) :
    ∃ done', Sound handlers state done' next ∧ next.outlook = r.outlook := by
  unfold consume at consumed
  cases stage : r.consumer.stage with
  | waiting =>
    rw [stage] at consumed
    exact ⟨done, receive_sound sound stage consumed⟩
  | handing alert number =>
    rw [stage] at consumed
    obtain rfl := Option.some.inj consumed
    exact handOn_sound sound stage
  | finished count =>
    rw [stage] at consumed
    cases consumed

theorem turn_sound {turn : Turn} (sound : Sound handlers state done r)
    (taken : r.turn handlers turn = some next) :
    ∃ done', Sound handlers state done' next ∧ next.outlook = r.outlook := by
  cases turn with
  | work now => exact ⟨done, work_sound sound taken⟩
  | consume => exact consume_sound sound taken

theorem run_sound {schedule : List Turn} {last : Relay σ} (sound : Sound handlers state done r)
    (ran : r.run handlers schedule = some last) :
    ∃ done', Sound handlers state done' last ∧ last.outlook = r.outlook := by
  induction schedule generalizing r done with
  | nil =>
    obtain rfl := Option.some.inj ran
    exact ⟨done, sound, rfl⟩
  | cons turn rest ih =>
    obtain ⟨next, taken, ran⟩ := Option.bind_eq_some_iff.mp ran
    obtain ⟨between, sound, here⟩ := turn_sound sound taken
    obtain ⟨done', sound, there⟩ := ih sound ran
    exact ⟨done', sound, there.trans here⟩

/-- Once the consumer has left, all alerts are dealt with. -/
theorem Sound.settled {count : Nat} (sound : Sound handlers state done r)
    (finished : r.consumer.stage = .finished count) :
    done = r.posted ∧ count = r.posted.length ∧
      r.consumer.consumed = .of state (Handler.calls handlers r.posted) r.posted.length ∧
      r.consumer.handed = r.posted.flatMap (handings handlers.length) ∧
      r.stage = .released r.service.checker.store := by
  obtain ⟨pending, store, released⟩ := sound.left (by rw [finished]; rfl)
  have posted := sound.posted
  rw [finished, pending, Consumer.Stage.inHand, List.append_nil, List.append_nil] at posted
  rw [posted]
  have kept := sound.keeps store (by rw [released]; rfl)
  have dealt := sound.dealt
  generalize r.consumer = c at dealt finished
  cases dealt with
  | waiting | handing => cases finished
  | finished =>
    cases finished
    exact ⟨rfl, rfl, rfl, rfl, by rw [released, kept]⟩

theorem received_of_handed {number : Nat} (known : number < handlers.length)
    (handed : r.consumer.handed = r.posted.flatMap (handings handlers.length)) :
    r.received number = r.posted := by
  rw [received, handed, List.filter_flatMap]
  simp only [filter_handings known, ← List.map_eq_flatMap, List.map_map]
  exact List.map_id _

/-- Once the consumer has left, each handler was called once with each posted alert, in the order of the
changes of the store. -/
theorem exactly_once {settings : Settings} {store : Store} {requests : List Request} {schedule : List Turn}
    {last : Relay σ} {count : Nat}
    (ran : (start (Service.start settings store).value requests state).run handlers schedule = some last)
    (finished : last.consumer.stage = .finished count) :
    let alone := Checker.serve { rules := settings.rules.value, store } requests
    let alerts := last.posted.map StampedAlert.toAlert
    let calls := last.posted.flatMap fun alert => handlers.map fun handler => (handler, alert)
    alerts = alone.alerts ∧ last.reports = alone.reports ∧
      last.consumer.handed = last.posted.flatMap (handings handlers.length) ∧
      (∀ number < handlers.length, last.received number = last.posted) ∧
      last.consumer.consumed.state =
        calls.foldl (fun state call => (call.1.handle call.2 state).state) state ∧
      last.consumer.consumed.notices = Handler.noted calls state ∧
      last.consumer.consumed = Consumed.drain handlers { state } { pending := last.posted } ∧
      count = last.posted.length ∧ count = last.returned.sum ∧
      (.brokenOff ∉ last.reports → count = (last.reports.map Report.alerts).sum) ∧
      ∃ saved, last.stage = .released saved ∧ saved = alone.checker.store ∧ store.Replays alerts saved := by
  intro alone alerts calls
  obtain ⟨done, sound, outlook⟩ := run_sound (start_sound rfl requests) ran
  obtain ⟨-, counted, consumed, handed, released⟩ := sound.settled finished
  -- Nothing is still to come, so what has come of the requests is all that comes of them.
  have whole : last.soFar = alone := by
    have nothing : last.outlook = last.soFar := by
      rw [Relay.outlook, released]
      simp [Stage.serve, soFar, Served.andThen]
    exact nothing.symm.trans outlook
  have posted : alerts = alone.alerts := congrArg Served.alerts whole
  have reports : last.reports = alone.reports := congrArg Served.reports whole
  have left : last.service.checker.store = alone.checker.store :=
    congrArg (fun served => served.checker.store) whole
  have returned : last.returned.sum = last.posted.length := by
    have balance := sound.counted
    rw [released] at balance
    exact balance
  refine ⟨posted, reports, handed, fun number known => received_of_handed known handed,
    congrArg Consumed.state consumed, congrArg Consumed.notices consumed,
    consumed.trans (Consumed.drain_eq handlers last.posted).symm, counted, counted.trans returned.symm, ?_, _,
    released, left, ?_⟩
  · intro answered
    rw [reports] at answered ⊢
    rw [counted, Checker.serve_reports _ _ answered, ← posted, List.length_map]
  · rw [posted, left]
    exact Checker.serve_replays { rules := settings.rules.value, store } requests

def lamePair : List (Handler (List String)) :=
  [{ name := "lame", handle := fun _ state => { state, failed := true } },
    { name := "log", handle := fun alert state => { state := state ++ [alert.identity] } }]

def usageSettings : Settings where
  checker := [("cpu", .table [("alertUUID", .string "host")]),
    ("usage", .table [("error", .string "range:[0,90]")])]

/-- Both alerts reach both handlers, although the first handler fails. -/
theorem exactly_once_usage :
    let requests : List Request :=
      [.handle (Checker.usageEvent ⟨95, by decide⟩), .intake [10],
        .handle (Checker.usageEvent ⟨10, by decide⟩)]
    let works := fun count => List.replicate count (Turn.work ⟨0, 0⟩)
    let schedule := works 7 ++ [.consume] ++ works 1 ++ [.consume] ++ works 9 ++ [.consume, .consume] ++
      works 4 ++ List.replicate 5 .consume
    ∃ last, (start (Service.start usageSettings {}).value requests []).run lamePair schedule = some last ∧
      last.consumer.stage = .finished 2 ∧
      last.posted.map (fun alert => (alert.identity, alert.backToNormal)) =
        [("cpu-usage-A", false), ("cpu-usage-A", true)] ∧
      last.reports = [.changes 1, .counts { lines := 1, skipped := 1 }, .changes 1] ∧
      (∀ number < 2, last.received number = last.posted) ∧
      last.consumer.consumed.state = ["cpu-usage-A", "cpu-usage-A"] ∧
      last.consumer.consumed.notices =
        [.handlerFailed "lame" "cpu-usage-A", .handlerFailed "lame" "cpu-usage-A"] ∧
      last.returned.sum = 2 ∧ (last.reports.map Report.alerts).sum = 2 := by
  intro requests works schedule
  have ended : ((start (Service.start usageSettings {}).value requests []).run lamePair schedule).map
      (fun last => (last.consumer.stage,
        last.posted.map fun alert => (alert.identity, alert.backToNormal), last.reports)) =
      some (.finished 2, [("cpu-usage-A", false), ("cpu-usage-A", true)],
        [.changes 1, .counts { lines := 1, skipped := 1 }, .changes 1]) := by
    decide +kernel
  obtain ⟨last, ran, facts⟩ := Option.map_eq_some_iff.mp ended
  obtain ⟨finished, facts⟩ := Prod.mk.inj facts
  obtain ⟨posted, reports⟩ := Prod.mk.inj facts
  have whole : Report.brokenOff ∉ last.reports := by
    rw [reports]
    decide
  obtain ⟨-, -, -, received, logged, noted, -, -, returned, reported, -⟩ := exactly_once ran finished
  -- The two posted alerts are known by their identities, and these are all that the handlers look at.
  obtain ⟨raised, rest, both, first, others⟩ := List.map_eq_cons_iff.mp posted
  obtain ⟨cleared, none, rfl, second, nothing⟩ := List.map_eq_cons_iff.mp others
  obtain rfl := List.map_eq_nil_iff.mp nothing
  have identities : raised.identity = "cpu-usage-A" ∧ cleared.identity = "cpu-usage-A" :=
    ⟨congrArg Prod.fst first, congrArg Prod.fst second⟩
  rw [both] at logged noted
  have state : last.consumer.consumed.state = ["cpu-usage-A", "cpu-usage-A"] := by
    simpa [lamePair, identities] using logged
  have failures : last.consumer.consumed.notices =
      [.handlerFailed "lame" "cpu-usage-A", .handlerFailed "lame" "cpu-usage-A"] := by
    simpa [lamePair, Handler.noted, identities] using noted
  exact ⟨last, ran, finished, posted, reports, received, state, failures, returned.symm,
    (reported whole).symm⟩

end Relay
end EdgeAlert
