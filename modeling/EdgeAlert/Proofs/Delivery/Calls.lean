import EdgeAlert.Delivery

/-!
# Calls of handlers

What handlers bring about, call by call: each call works on the state that the one before it left, whether
or not that one failed, and a failure is noted. `Consumed.drain_eq` says that the alerts of a channel come
to the calls of all handlers with each of them.
-/

namespace EdgeAlert

variable {σ : Type}

namespace Handler

def stateAfter (calls : List (Handler σ × StampedAlert)) (state : σ) : σ :=
  calls.foldl (fun state call => (call.1.handle call.2 state).state) state

/-- What is noted of some calls: what each handler notes itself, and whether it fails. -/
def noted : List (Handler σ × StampedAlert) → σ → List Notice
  | [], _ => []
  | (handler, alert) :: calls, state =>
    let handled := handler.handle alert state
    let failure := if handled.failed then [.handlerFailed handler.name alert.identity] else []
    handled.notices ++ failure ++ noted calls handled.state

theorem noted_append (first second : List (Handler σ × StampedAlert)) (state : σ) :
    noted (first ++ second) state = noted first state ++ noted second (stateAfter first state) := by
  induction first generalizing state with
  | nil => rfl
  | cons call first ih =>
    rw [List.cons_append, noted, noted, ih, ← List.append_assoc]
    rfl

/-- The calls for some alerts: each goes to all handlers in their order. -/
def calls (handlers : List (Handler σ)) (alerts : List StampedAlert) : List (Handler σ × StampedAlert) :=
  alerts.flatMap fun alert => handlers.map fun handler => (handler, alert)

theorem calls_cons (handlers : List (Handler σ)) (alert : StampedAlert) (alerts : List StampedAlert) :
    calls handlers (alert :: alerts) =
      (handlers.map fun handler => (handler, alert)) ++ calls handlers alerts := List.flatMap_cons

theorem calls_concat (handlers : List (Handler σ)) (alerts : List StampedAlert) (alert : StampedAlert) :
    calls handlers (alerts ++ [alert]) =
      calls handlers alerts ++ handlers.map fun handler => (handler, alert) := by
  rw [calls, List.flatMap_append, List.flatMap_singleton]
  rfl

end Handler

namespace Consumed

variable {state : σ} {made : List (Handler σ × StampedAlert)} {count : Nat}

/-- What has come of some calls from the start. -/
def of (state : σ) (made : List (Handler σ × StampedAlert)) (count : Nat) : Consumed σ where
  state := Handler.stateAfter made state
  count := count
  notices := Handler.noted made state

theorem hand_of (alert : StampedAlert) (handler : Handler σ) :
    (of state made count).hand alert handler = of state (made ++ [(handler, alert)]) count := by
  have after : Handler.stateAfter (made ++ [(handler, alert)]) state =
      (handler.handle alert (Handler.stateAfter made state)).state := List.foldl_append
  unfold of hand
  rw [after, Handler.noted_append, Handler.noted, Handler.noted, List.append_nil, ← List.append_assoc]

theorem foldl_hand_of (alert : StampedAlert) (handlers : List (Handler σ)) :
    handlers.foldl (hand alert) (of state made count) =
      of state (made ++ handlers.map fun handler => (handler, alert)) count := by
  induction handlers generalizing made with
  | nil => rw [List.map_nil, List.append_nil]; rfl
  | cons handler handlers ih =>
    rw [List.foldl_cons, hand_of, ih, List.append_assoc]
    rfl

theorem take_of (handlers : List (Handler σ)) (alert : StampedAlert) :
    (of state made count).take handlers alert =
      of state (made ++ handlers.map fun handler => (handler, alert)) (count + 1) := by
  rw [take, foldl_hand_of]
  rfl

theorem foldl_take_of (handlers : List (Handler σ)) (alerts : List StampedAlert) :
    alerts.foldl (take handlers) (of state made count) =
      of state (made ++ Handler.calls handlers alerts) (count + alerts.length) := by
  induction alerts generalizing made count with
  | nil => rw [Handler.calls, List.flatMap_nil, List.append_nil]; rfl
  | cons alert alerts ih =>
    rw [List.foldl_cons, take_of, ih, Handler.calls_cons, List.append_assoc, List.length_cons, Nat.add_assoc,
      Nat.add_comm 1]

theorem drain_eq (handlers : List (Handler σ)) (alerts : List StampedAlert) :
    drain handlers { state } { pending := alerts } = of state (Handler.calls handlers alerts) alerts.length := by
  have drained := @foldl_take_of σ state [] 0 handlers alerts
  rw [List.nil_append, Nat.zero_add] at drained
  exact drained

end Consumed
end EdgeAlert
