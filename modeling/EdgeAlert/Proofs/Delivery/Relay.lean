import EdgeAlert.Proofs.Service.Posting
import EdgeAlert.Proofs.Service.Requests

/-!
# A service and its consumer at work

A service goes through its requests and posts alerts, one check of one event after the other. Beside it
the consumer takes alerts from the channel and hands each of them on, to one handler after the other. A
schedule says whose turn it is. `Stage.work_follows` says that no turn of the service departs from what
comes of the requests when nobody else is at work.
-/

namespace EdgeAlert

structure Checking where
  rules : Rules
  event : Event
  left : List (String × Value × Severity)
  changes : Nat := 0

/-- What the service is at. Once there are no requests left the store is saved, and then the channel is let go
of: no more alerts are to come. -/
inductive Stage where
  | free (requests : List Request)
  | reading (intake : Reading) (requests : List Request)
  | checking (event : Checking) (source : Option Reading) (requests : List Request)
  | saved (store : Store)
  | released (store : Store)

structure Work extends Served where
  stage : Stage
  returned : List Nat := []

namespace Stage

variable (checker : Checker)

def begin (event : Event) (source : Option Reading) (requests : List Request) : Work :=
  let checks := Checker.observations event
  { checker, stage := .checking { rules := checker.rules, event, left := checks } source requests }

def check (event : Checking) (one : String × Value × Severity) (source : Option Reading)
    (requests : List Request) : Work :=
  let reaction := Checker.observe event.rules event.event one.1 one.2.1 one.2.2 checker.store
  { checker := checker.settle reaction
    alerts := reaction.alerts
    stage := .checking { event with changes := event.changes + reaction.changes } source requests }

def conclude (changes : Nat) (source : Option Reading) (requests : List Request) : Work :=
  match source with
  | none =>
    { checker, stage := .free requests, returned := [changes], reports := [.changes changes] }
  | some intake =>
    let counts := { intake.counts with alerts := intake.counts.alerts + changes }
    { checker, stage := .reading { intake with counts } requests, returned := [changes] }

def readLine (line : List UInt8) (intake : Reading) (requests : List Request) : Work :=
  let counts := { intake.counts with lines := intake.counts.lines + 1 }
  match Text.ofUtf8? line with
  | none => { checker, stage := .free requests, reports := [.brokenOff] }
  | some text => match Intake.Line.read text with
    | .event event =>
      let counts := { counts with events := counts.events + 1 }
      begin checker event (some { intake with counts }) requests
    | .passedOver | .unreadable =>
      let counts := { counts with skipped := counts.skipped + 1 }
      { checker, stage := .reading { intake with counts } requests }

def work : Stage → Option Work
  | .free [] => some { checker, stage := .saved checker.store }
  | .free (.handle event :: requests) => some (begin checker event none requests)
  | .free (.update rules :: requests) =>
    some { checker := (checker.update rules).value, stage := .free requests }
  | .free (.intake bytes :: requests) =>
    some { checker, stage := .reading { lines := Intake.inputLines bytes } requests }
  | .reading ⟨[], counts⟩ requests =>
    some { checker, stage := .free requests, reports := [.counts counts] }
  | .reading ⟨line :: lines, counts⟩ requests => some (readLine checker line ⟨lines, counts⟩ requests)
  | .checking ⟨rules, event, one :: left, changes⟩ source requests =>
    some (check checker ⟨rules, event, left, changes⟩ one source requests)
  | .checking ⟨_, _, [], changes⟩ source requests => some (conclude checker changes source requests)
  | .saved store => some { checker, stage := .released store }
  | .released _ => none

end Stage

inductive Consumer.Stage where
  | waiting
  | handing (alert : StampedAlert) (next : Nat)
  | finished (count : Nat)
  deriving DecidableEq

structure Consumer (σ : Type) where
  stage : Consumer.Stage := .waiting
  consumed : Consumed σ
  handed : List (Nat × StampedAlert) := []

/-- A service and its consumer. The last three fields are histories: the alerts that came into the channel,
and what was returned for the events and for the requests. -/
structure Relay (σ : Type) where
  service : Service
  stage : Stage
  consumer : Consumer σ
  posted : List StampedAlert := []
  returned : List Nat := []
  reports : List Report := []

inductive Turn where
  | work (now : Timestamp)
  | consume

namespace Relay

variable {σ : Type}

def start (service : Service) (requests : List Request) (state : σ) : Relay σ where
  service := service
  stage := .free requests
  consumer := { consumed := { state } }

def work (now : Timestamp) (r : Relay σ) : Option (Relay σ) :=
  (r.stage.work r.service.checker).map fun done =>
    let before : Noted Service := { value := { r.service with checker := done.checker } }
    let service := (done.alerts.foldl (Service.post now) before).value
    { r with
      service
      stage := done.stage
      posted := r.posted ++ service.channel.pending.drop r.service.channel.pending.length
      returned := r.returned ++ done.returned
      reports := r.reports ++ done.reports }

/-- The consumer takes the next alert, or leaves when none waits and none is to come. -/
def receive (r : Relay σ) : Option (Relay σ) :=
  match r.service.channel.pending with
  | alert :: pending =>
    some { r with service.channel.pending := pending, consumer.stage := .handing alert 0 }
  | [] => match r.stage with
    | .released _ =>
      let count := r.consumer.consumed.count
      some { r with service.channel.closed := true, consumer.stage := .finished count }
    | _ => none

def handOn (handlers : List (Handler σ)) (r : Relay σ) (alert : StampedAlert) (next : Nat) : Relay σ :=
  match handlers[next]? with
  | some handler =>
    { r with consumer :=
        { stage := .handing alert (next + 1)
          consumed := r.consumer.consumed.hand alert handler
          handed := r.consumer.handed ++ [(next, alert)] } }
  | none =>
    let count := r.consumer.consumed.count + 1
    { r with consumer.stage := .waiting, consumer.consumed.count := count }

def consume (handlers : List (Handler σ)) (r : Relay σ) : Option (Relay σ) :=
  match r.consumer.stage with
  | .waiting => r.receive
  | .handing alert next => some (r.handOn handlers alert next)
  | .finished _ => none

def turn (handlers : List (Handler σ)) (r : Relay σ) : Turn → Option (Relay σ)
  | .work now => r.work now
  | .consume => r.consume handlers

def run (handlers : List (Handler σ)) (r : Relay σ) : List Turn → Option (Relay σ)
  | [] => some r
  | turn :: rest => (r.turn handlers turn).bind fun next => next.run handlers rest

def received (r : Relay σ) (handler : Nat) : List StampedAlert :=
  (r.consumer.handed.filter fun call => call.1 = handler).map Prod.snd

end Relay

/-! ### The turns of the service -/

def Checker.resume (checker : Checker) (changes : Nat) : Option Reading → Served
  | none => { checker, reports := [.changes changes] }
  | some intake =>
    checker.readOn
      { intake with counts := { intake.counts with alerts := intake.counts.alerts + changes } }

namespace Stage

variable {checker : Checker} {stage : Stage} {done : Work}

/-- What is still to come of a stage. -/
def serve (checker : Checker) : Stage → Served
  | .free requests => checker.serve requests
  | .reading intake requests => (checker.readOn intake).thenServe requests
  | .checking event source requests =>
    let rest := event.left.foldl (Checker.react event.rules event.event) { store := checker.store }
    let last := (checker.settle rest).resume (event.changes + rest.changes) source
    Served.andThen { checker, alerts := rest.alerts } (last.thenServe requests)
  | .saved _ | .released _ => { checker }

def underway : Stage → Nat
  | .checking event _ _ => event.changes
  | _ => 0

def saved? : Stage → Option Store
  | .saved store | .released store => some store
  | _ => none

/-- The store that was saved, if any was, is the store as it is. -/
def Keeps (stage : Stage) (checker : Checker) : Prop :=
  ∀ store, stage.saved? = some store → store = checker.store

/-- A turn does not change where the service is on its way to, and the changes of an event are its alerts. -/
structure Follows (checker : Checker) (stage : Stage) (done : Work) : Prop where
  served : serve checker stage = done.toServed.andThen (serve done.checker done.stage)
  counted : done.returned.sum + done.stage.underway = stage.underway + done.alerts.length
  keeps : stage.Keeps checker → done.stage.Keeps done.checker

theorem serve_begin (event : Event) (source : Option Reading) (requests : List Request) :
    let reaction := checker.handle event
    let done := begin checker event source requests
    serve done.checker done.stage =
      Served.andThen { checker, alerts := reaction.alerts }
        (((checker.settle reaction).resume reaction.changes source).thenServe requests) := by
  dsimp only [begin, serve]
  rw [Nat.zero_add]
  rfl

theorem check_follows (event : Checking) (one : String × Value × Severity) (source : Option Reading)
    (requests : List Request) :
    Follows checker (.checking { event with left := one :: event.left } source requests)
      (check checker event one source requests) where
  served := by
    obtain ⟨store, alerts, changes⟩ := Checker.foldl_react event.rules event.event event.left
      (Checker.react event.rules event.event { store := checker.store } one)
    have settled : ∀ reaction reaction' : Reaction, reaction.store = reaction'.store →
        checker.settle reaction = checker.settle reaction' := by
      intro reaction reaction' same
      rw [Checker.settle, Checker.settle, same]
    dsimp only [serve, check, List.foldl_cons]
    rw [alerts, changes, settled _ _ store]
    simp [Checker.react, Checker.settle, Served.andThen, Nat.add_assoc]
  counted := by
    obtain ⟨-, -, changes⟩ :=
      Checker.observe_spec ⟨event.rules, event.event, one.1, one.2.1⟩ one.2.2 checker.store
    dsimp only [check, underway]
    rw [changes, List.sum_nil, Nat.zero_add]
  keeps _ _ := nofun

theorem conclude_follows (rules : Rules) (event : Event) (changes : Nat) (source : Option Reading)
    (requests : List Request) :
    Follows checker (.checking ⟨rules, event, [], changes⟩ source requests)
      (conclude checker changes source requests) := by
  cases source with
  | none | some => exact ⟨rfl, List.sum_singleton, fun _ _ => nofun⟩

theorem readLine_follows (line : List UInt8) (intake : Reading) (requests : List Request) :
    Follows checker (.reading { intake with lines := line :: intake.lines } requests)
      (readLine checker line intake requests) := by
  have reading : serve checker (.reading { intake with lines := line :: intake.lines } requests) =
      (checker.readOn ⟨line :: intake.lines, intake.counts⟩).thenServe requests := rfl
  rw [Checker.readOn_cons] at reading
  unfold readLine
  cases decoded : Text.ofUtf8? line with
  | none =>
    rw [decoded] at reading
    exact ⟨reading, rfl, fun _ _ => nofun⟩
  | some text =>
    rw [decoded] at reading
    dsimp only at reading ⊢
    cases held : Intake.Line.read text with
    | event event =>
      rw [held] at reading
      refine ⟨?_, rfl, fun _ _ => nofun⟩
      dsimp only at reading ⊢
      rw [reading, serve_begin, Served.andThen_thenServe]
      rfl
    | passedOver | unreadable =>
      rw [held] at reading
      exact ⟨reading, rfl, fun _ _ => nofun⟩

theorem work_follows (worked : work checker stage = some done) : Follows checker stage done := by
  revert worked
  -- The cases are those of the definition: the store is saved, a request is begun (three), an intake is
  -- at its end or has a line, an event has a check or is at its end, the channel is let go of, or nothing.
  fun_cases work checker stage with
  | case1 =>
    rintro ⟨⟩
    exact ⟨rfl, rfl, fun _ _ found => (Option.some.inj found).symm⟩
  | case2 event requests =>
    rintro ⟨⟩
    refine ⟨?_, rfl, fun _ _ => nofun⟩
    rw [serve_begin]
    rfl
  | case3 | case4 | case5 =>
    rintro ⟨⟩
    exact ⟨rfl, rfl, fun _ _ => nofun⟩
  | case6 line lines counts requests =>
    rintro ⟨⟩
    exact readLine_follows line ⟨lines, counts⟩ requests
  | case7 rules event one left changes source requests =>
    rintro ⟨⟩
    exact check_follows ⟨rules, event, left, changes⟩ one source requests
  | case8 rules event changes source requests =>
    rintro ⟨⟩
    exact conclude_follows rules event changes source requests
  | case9 store =>
    rintro ⟨⟩
    exact ⟨rfl, rfl, id⟩
  | case10 => exact nofun

end Stage
end EdgeAlert
