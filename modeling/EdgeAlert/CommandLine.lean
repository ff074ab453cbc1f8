import EdgeAlert.LogDirective
import EdgeAlert.Service.Lifecycle

/-!
# Command line

The program on any host: it runs the service on the input until that ends, lists the alerts of a
snapshot, or says how it is used. The result is the exit code.
-/

namespace EdgeAlert

inductive Command where
  | help
  | listAlerts (settings : Option String)
  | serve (settings : String)
  deriving DecidableEq

namespace Command

def defaultSettings : String := "config/decanter.toml"

/-- What arguments ask for. Further arguments do not count. -/
def ofArguments : List String → Command
  | "list-alerts" :: rest => .listAlerts rest.head?
  | "--help" :: _ | "-h" :: _ => .help
  | settings :: _ => .serve settings
  | [] => .serve defaultSettings

def usage : List String :=
  ["Usage:",
    "  decanter-server [config.toml]               Check JSON-lines collected events read from stdin",
    "  decanter-server list-alerts <config.toml>   Print alerts recorded in the snapshot file"]

end Command

namespace Host

variable {m : Type → Type} [Monad m] (host : Host m)

def fail (message : String) : m UInt32 := do
  host.printError ("Error: " ++ message)
  return 1

def snapshotFault (fault : FileFault) : String :=
  "Alert: snapshot I/O error: " ++ fault.message ++ "\n\nCaused by:\n    " ++ fault.message

def loadSettings (path : String) : m (Except String Settings) := do
  match ← host.readText path with
  | .error fault => return .error ("Failed to read config file '" ++ path ++ "': " ++ fault.message)
  | .ok text =>
    match Settings.read text with
    | .ok settings => return .ok settings
    | .error .document => return .error "TOML parse error"
    | .error (.nodeId e) => return .error e.message

def listAlerts (path : String) : m UInt32 := do
  match ← host.loadSettings path with
  | .error message => host.fail message
  | .ok settings =>
    match ← host.loadStore settings.snapshotPath with
    | .error fault => host.fail (snapshotFault fault)
    | .ok loaded =>
      for s in Severity.all do
        for identity in loaded.value.list s do
          host.printLine (s.name ++ "\t" ++ identity)
      return 0

def tell (directive : LogDirective) (notices : List Notice) : m Unit :=
  (notices.filter fun n => directive.shows n.level).forM host.notify

def handlers (settings : Settings) : List (Handler (List String)) :=
  .log :: if settings.jsonAlerts then [.jsonLines fun line lines => some (lines ++ [line])] else []

structure Session where
  service : Service
  counts : IntakeCounts := {}
  delivered : Nat := 0
  failed : Bool := false

def deliver (settings : Settings) (directive : LogDirective) (session : Session) : m Session := do
  let (done, service) := session.service.deliver (handlers settings) { state := [] }
  host.tell directive done.notices
  done.state.forM host.printLine
  return { session with service, delivered := session.delivered + done.count }

def readLine (settings : Settings) (directive : LogDirective) (bytes : List UInt8)
    (session : Session) : m (ForInStep Session) := do
  match Text.ofUtf8? bytes with
  | none => return .done { session with failed := true }
  | some line =>
    let progress : Intake.Progress :=
      { checker := session.service.checker, counts := session.counts }
    let progress := progress.read line
    let service := session.service.absorb (← host.now) progress
    host.tell directive service.notices
    let session := { session with service := service.value, counts := progress.counts }
    return .yield (← host.deliver settings directive session)

def runService (settings : Settings) (directive : LogDirective) (service : Service) : m UInt32 := do
  let checker := service.checker
  host.tell directive
    [.serviceStarted checker.rules.size settings.snapshotPath (checker.store.size .error)
      (checker.store.size .warn) settings.nodeId.toText]
  let session ← host.forLines { service } (host.readLine settings directive)
  host.tell directive [if session.failed then .intakeFailed else .intakeFinished session.counts]
  match ← host.stopService settings (handlers settings) session.service { state := [] } with
  | .error fault => host.fail (snapshotFault fault)
  | .ok done =>
    done.state.forM host.printLine
    host.tell directive (done.notices ++ [.serviceStopped (session.delivered + done.count)])
    return 0

def serve (path : String) : m UInt32 := do
  match ← host.loadSettings path with
  | .error message => host.fail message
  | .ok settings =>
    match LogDirective.read? settings.logLevel with
    | none => host.fail "invalid filter directive"
    | some directive =>
      match ← host.startService settings with
      | .error fault => host.fail (snapshotFault fault)
      | .ok started =>
        host.tell directive started.notices
        host.runService settings directive started.value

def run (arguments : List String) : m UInt32 := do
  match Command.ofArguments arguments with
  | .help =>
    Command.usage.forM host.printError
    return 0
  | .listAlerts none =>
    Command.usage.forM host.printError
    host.fail "list-alerts requires <config.toml> argument"
  | .listAlerts (some path) => host.listAlerts path
  | .serve path => host.serve path

end Host
end EdgeAlert
