import EdgeAlert.Alert.Stamped
import EdgeAlert.Notice

/-!
# Delivery

Posted alerts wait in a channel, in order, until the consumer takes them. It hands each alert to all
handlers in order; a handler that fails is reported and does not keep the others from theirs.
-/

namespace EdgeAlert

structure Handled (σ : Type) where
  state : σ
  notices : List Notice := []
  failed : Bool := false

/-- A receiver of alerts, working on a state that all handlers share. -/
structure Handler (σ : Type) where
  name : String
  handle : StampedAlert → σ → Handled σ

structure Channel where
  pending : List StampedAlert := []
  /-- Nobody takes alerts from the channel any more. -/
  closed : Bool := false

namespace Channel

def closedMessage : String := "Notify: alert channel closed"

def post? (channel : Channel) (alert : StampedAlert) : Option Channel :=
  if channel.closed then none else some { channel with pending := channel.pending ++ [alert] }

def post (channel : Channel) (alert : StampedAlert) : Noted Channel :=
  match channel.post? alert with
  | some channel => { value := channel }
  | none => { value := channel, notices := [.alertDropped alert.identity] }

end Channel

/-- What the consumer has brought about. -/
structure Consumed (σ : Type) where
  state : σ
  count : Nat := 0
  notices : List Notice := []

namespace Consumed

variable {σ : Type}

def hand (alert : StampedAlert) (done : Consumed σ) (handler : Handler σ) : Consumed σ :=
  let handled := handler.handle alert done.state
  { done with
    state := handled.state
    notices := done.notices ++ handled.notices ++
      if handled.failed then [.handlerFailed handler.name alert.identity] else [] }

def take (handlers : List (Handler σ)) (done : Consumed σ) (alert : StampedAlert) : Consumed σ :=
  let done := handlers.foldl (hand alert) done
  { done with count := done.count + 1 }

def drain (handlers : List (Handler σ)) (done : Consumed σ) (channel : Channel) : Consumed σ :=
  channel.pending.foldl (take handlers) done

end Consumed
end EdgeAlert
