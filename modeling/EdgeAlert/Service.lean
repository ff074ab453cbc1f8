import EdgeAlert.Delivery.Handlers
import EdgeAlert.Intake
import EdgeAlert.Settings

/-!
# Service

The checker with the channel that its alerts go to. Alerts are stamped as they are posted, and they
wait in the channel until they are delivered.
-/

namespace EdgeAlert

structure Service where
  checker : Checker
  ids : IdSource
  channel : Channel := {}

def Timestamp.milliseconds (t : Timestamp) : Nat := (t.seconds * 1000).toNat + t.nanoseconds / 1000000

namespace Service

/-- The service as it starts, with the store of the last snapshot. -/
def start (settings : Settings) (store : Store) : Noted Service :=
  let rules := settings.rules
  { value := { checker := { rules := rules.value, store }, ids := { node := settings.nodeId } }
    notices := rules.notices }

def update (service : Service) (settings : Settings) : Noted Service :=
  let rules := settings.rules
  let checker := service.checker.update rules.value
  { value := { service with checker := checker.value }, notices := rules.notices ++ checker.notices }

def post (now : Timestamp) (service : Noted Service) (alert : Alert) : Noted Service :=
  let (id, ids) := service.value.ids.next now.milliseconds
  let posted := service.value.channel.post
    { alert with id := String.ofList (Decimal.digits id), timestamp := now }
  { value := { service.value with ids, channel := posted.value }
    notices := service.notices ++ posted.notices }

def absorb (service : Service) (now : Timestamp) (progress : Intake.Progress) : Noted Service :=
  progress.alerts.foldl (post now)
    { value := { service with checker := progress.checker }, notices := progress.notices }

def deliver {σ : Type} (service : Service) (handlers : List (Handler σ)) (done : Consumed σ) :
    Consumed σ × Service :=
  (done.drain handlers service.channel, { service with channel := {} })

end Service
end EdgeAlert
