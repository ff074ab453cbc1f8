import EdgeAlert.Host
import EdgeAlert.Service

/-!
# Starting and stopping the service

A service starts with the store of the snapshot that its settings name. Stopping it saves the
snapshot first, then lets the handlers have the alerts that still wait.
-/

namespace EdgeAlert.Host

variable {m : Type → Type} [Monad m] (host : Host m)

def startService (settings : Settings) : m (Except FileFault (Noted Service)) := do
  match ← host.loadStore settings.snapshotPath with
  | .error fault => return .error fault
  | .ok loaded =>
    let service := Service.start settings loaded.value
    return .ok { service with notices := loaded.notices ++ service.notices }

def stopService {σ : Type} (settings : Settings) (handlers : List (Handler σ)) (service : Service)
    (done : Consumed σ) : m (Except FileFault (Consumed σ)) := do
  match ← host.saveStore settings.snapshotPath service.checker.store with
  | .error fault => return .error fault
  | .ok saved =>
    let done := { done with notices := done.notices ++ saved.notices }
    return .ok (service.deliver handlers done).1

end EdgeAlert.Host
