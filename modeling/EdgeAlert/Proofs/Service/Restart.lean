import EdgeAlert.Proofs.Intake.Reading
import EdgeAlert.Proofs.Service.Posting
import EdgeAlert.Proofs.Store.Files
import EdgeAlert.Service.Lifecycle

/-!
# Restarts

A service that is stopped and started again has the store of its snapshot and the rules of its
settings, and nothing else of it matters to an intake. `restart_unobservable_iff` says when a restart
shows: exactly when some alerting identity does not fill one line of the snapshot.
-/

namespace EdgeAlert

namespace Service

def take (service : Service) (now : Timestamp) (bytes : List UInt8) : Service :=
  (service.absorb now (Intake.run service.checker bytes).progress).value

theorem start_checker (settings : Settings) (store : Store) :
    (start settings store).value.checker = { rules := settings.rules.value, store } := rfl

theorem take_checker (service : Service) (now : Timestamp) (bytes : List UInt8) :
    (service.take now bytes).checker = (Intake.run service.checker bytes).progress.checker :=
  foldl_post_checker now _ _

end Service

namespace Host

variable {World : Type} {host : Host (StateM World)} {settings : Settings} {service : Service}
  {world : World}

theorem startService_run {loaded : Noted Store}
    (load : ((host.loadStore settings.snapshotPath).run world).1 = .ok loaded) :
    ∃ started, ((host.startService settings).run world).1 = .ok started ∧
      started.value = (Service.start settings loaded.value).value := by
  cases ran : (host.loadStore settings.snapshotPath).run world with
  | mk result after =>
    rw [ran] at load
    subst load
    rw [startService, run_bind_eq ran]
    exact ⟨_, rfl, rfl⟩

theorem stopService_run {σ : Type} {handlers : List (Handler σ)} {done : Consumed σ}
    (saved : ((host.stopService settings handlers service done).run world).1.isOk) :
    let write := host.writeFile settings.snapshotPath (snapshotBytes service.checker.store)
    (write.run world).1 = .ok () ∧
      ((host.stopService settings handlers service done).run world).2 = (write.run world).2 := by
  intro write
  cases written : write.run world with
  | mk result after =>
    rw [stopService, run_bind_eq (saveStore_run written)] at saved ⊢
    cases result with
    | error fault => cases saved
    | ok => exact ⟨rfl, rfl⟩

/-- Whatever a service has taken in, stopping it and starting it again goes unnoticed by the next
intake exactly if each alerting identity fills one line. -/
theorem restart_unobservable_iff {σ : Type} (host : Host (StateM World)) (settings : Settings)
    (store : Store) (first second : List UInt8) (now : Timestamp) (handlers : List (Handler σ))
    (done : Consumed σ) (world : World) :
    let service := ((Service.start settings store).value).take now first
    let stop := (host.stopService settings handlers service done).run world
    host.KeepsFile settings.snapshotPath (snapshotBytes service.checker.store) world →
    stop.1.isOk →
    ∃ started, ((host.startService settings).run stop.2).1 = .ok started ∧
      (Intake.Alike (Intake.run started.value.checker second) (Intake.run service.checker second) ↔
        ∀ s, ∀ x ∈ service.checker.store.alerting s, OneLine x) := by
  intro service stop keeps saved
  obtain ⟨written, after⟩ := stopService_run saved
  obtain ⟨started, start, value⟩ := startService_run (loadStore_run (keeps written))
  refine ⟨started, ?_, ?_⟩
  · rw [after]
    exact start
  · have rules : started.value.checker.rules = service.checker.rules := by
      rw [value, Service.start_checker, Service.take_checker, Intake.run_rules, Service.start_checker]
    rw [Intake.alike_iff rules, value, Service.start_checker, ← Store.reload_eq_iff]

def hostSettings : Settings where
  checker := [("cpu", .table [("alertUUID", .string "host")]),
    ("usage", .table [("error", .string "range:[0,90]")])]

def busyLine (name : String) : List UInt8 :=
  let event : Event :=
    { topic := "decanter/collect/cpu"
      properties := .ofList [("type", .text "cpu"), ("host", .text name), ("usage", .long ⟨95, by decide⟩)] }
  (event.toText ++ "\n").toUTF8.toList

def busyService (name : String) : Service :=
  ((Service.start hostSettings {}).value).take ⟨0, 0⟩ (busyLine name)

def busyStop (name : String) : Except FileFault (Consumed Unit) × Machine :=
  (Machine.host.stopService hostSettings [.log] (busyService name) { state := () }).run {}

theorem restart_unobservable_for_host :
    (busyService "A").checker.store.list .error = ["cpu-usage-A"] ∧
      ∃ started, ((Machine.host.startService hostSettings).run (busyStop "A").2).1 = .ok started ∧
        Intake.Alike (Intake.run started.value.checker (busyLine "A"))
          (Intake.run (busyService "A").checker (busyLine "A")) := by
  have store : (busyService "A").checker.store =
      { error := ⟨["cpu-usage-A"], List.pairwise_singleton _ _⟩ } := by decide +kernel
  have fits : ∀ s, ∀ x ∈ (busyService "A").checker.store.alerting s, OneLine x := by
    intro s x known
    rw [store] at known
    cases s with
    | error =>
      obtain rfl := List.mem_singleton.mp known
      decide
    | warn => cases known
  have keeps : Machine.host.KeepsFile hostSettings.snapshotPath
      (snapshotBytes (busyService "A").checker.store) {} := by
    rw [store]
    unfold KeepsFile
    decide +kernel
  obtain ⟨started, start, alike⟩ := restart_unobservable_iff Machine.host hostSettings {} (busyLine "A")
    (busyLine "A") ⟨0, 0⟩ [.log] { state := () } {} keeps (by decide +kernel)
  exact ⟨by rw [store]; rfl, started, start, alike.mpr fits⟩

/-- A host whose name holds a line feed is forgotten: it is known to be busy, but after a restart the
same line raises its alert again. -/
theorem restart_forgets_host :
    (busyStop "A\nB").1.isOk ∧
      (Intake.run (busyService "A\nB").checker (busyLine "A\nB")).progress.alerts = [] ∧
      (((Machine.host.startService hostSettings).run (busyStop "A\nB").2).1.toOption.map fun started =>
        (Intake.run started.value.checker (busyLine "A\nB")).progress.alerts.map fun a =>
          (a.identity, a.level, a.backToNormal)) =
        some [("cpu-usage-A\nB", .error, false)] := by
  decide +kernel

end Host
end EdgeAlert
