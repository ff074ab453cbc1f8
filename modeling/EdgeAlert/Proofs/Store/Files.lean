import EdgeAlert.Files
import EdgeAlert.Proofs.Store.Snapshot
import EdgeAlert.Proofs.Text.Utf8

/-!
# Stores in files

What becomes of a store that is saved to a file and loaded from it, on a host that keeps its files.
`save_load_iff`: it is loaded, and it is the same store exactly if each of its identities fills one line.
The file depends on nothing but what is known.
-/

namespace EdgeAlert.Host

variable {World : Type} {host : Host (StateM World)} {path : String} {store : Store} {world : World}

def KeepsFile (host : Host (StateM World)) (path : String) (bytes : List UInt8) (world : World) : Prop :=
  ((host.writeFile path bytes).run world).1 = .ok () →
    ((host.readFile path).run ((host.writeFile path bytes).run world).2).1 = .ok bytes

def snapshotBytes (store : Store) : List UInt8 := store.toSnapshot.toUTF8.toList

theorem run_bind_eq {α β : Type} {act : StateM World α} {next : α → StateM World β} {a : α}
    {after : World} (ran : act.run world = (a, after)) : (act >>= next).run world = (next a).run after := by
  rw [StateT.run_bind, ran]
  rfl

theorem loadStore_text {content : String}
    (held : ((host.readFile path).run world).1 = .ok content.toUTF8.toList) :
    ((host.loadStore path).run world).1 = .ok (Store.ofSnapshot content) := by
  cases read : (host.readFile path).run world with
  | mk result after =>
    rw [read] at held
    subst held
    have decoded : Text.ofUtf8? content.toUTF8.toList = some content := Text.ofUtf8?_toUTF8 _
    have text : (host.readText path).run world = (.ok content, after) := by
      rw [readText, run_bind_eq read]
      dsimp only
      rw [decoded]
      rfl
    rw [loadStore, run_bind_eq text]
    rfl

theorem loadStore_run (kept : ((host.readFile path).run world).1 = .ok (snapshotBytes store)) :
    ((host.loadStore path).run world).1 = .ok (Store.ofSnapshot store.toSnapshot) := loadStore_text kept

theorem saveStore_run {result : Except FileFault Unit} {after : World}
    (written : (host.writeFile path (snapshotBytes store)).run world = (result, after)) :
    (host.saveStore path store).run world =
      (result.map fun _ => { value := (), notices := [.snapshotSaved] }, after) := by
  unfold snapshotBytes at written
  rw [saveStore, run_bind_eq written]
  cases result <;> rfl

/-- A saved store comes back exactly if no identity in it holds a line feed or ends in a carriage return. -/
theorem save_load_iff (host : Host (StateM World)) (path : String) (store : Store) (world : World)
    (keeps : host.KeepsFile path (snapshotBytes store) world)
    (saved : ((host.saveStore path store).run world).1.isOk) :
    (∃ loaded,
      ((host.loadStore path).run ((host.saveStore path store).run world).2).1 = .ok loaded ∧
        ((∀ s, loaded.value.alerting s = store.alerting s) ↔
          ∀ s, ∀ x ∈ store.alerting s, '\n' ∉ x.toList ∧ x.toList.getLast? ≠ some '\r')) ∧
      ∀ other : Store, (∀ s x, x ∈ other.alerting s ↔ x ∈ store.alerting s) →
        host.saveStore path other = host.saveStore path store := by
  constructor
  · cases written : (host.writeFile path (snapshotBytes store)).run world with
    | mk result after =>
      rw [saveStore_run written] at saved ⊢
      cases result with
      | error fault => cases saved
      | ok =>
        unfold KeepsFile at keeps
        rw [written] at keeps
        refine ⟨_, loadStore_run (keeps rfl), Iff.trans ⟨Store.ext_alerting, ?_⟩ store.reload_eq_iff⟩
        rintro back s
        rw [back]
  · intro other same
    rw [Store.ext_alerting fun s => IdentitySet.ext_mem (same s)]

def oddStore : Store :=
  let errors := ((({} : Store).add "" .error).1.add "warn:jmx" .error).1
  (errors.add " jmx-url-http://host:8080 " .warn).1

theorem odd_store_comes_back :
    ∃ loaded,
      ((Machine.host.loadStore "alerts").run
        ((Machine.host.saveStore "alerts" oddStore).run {}).2).1 = .ok loaded ∧
        ∀ s, loaded.value.alerting s = oddStore.alerting s := by
  have keeps : Machine.host.KeepsFile "alerts" (snapshotBytes oddStore) {} := by
    unfold KeepsFile
    decide +kernel
  have fits : ∀ s, ∀ x ∈ oddStore.list s, '\n' ∉ x.toList ∧ x.toList.getLast? ≠ some '\r' := by
    intro s
    cases s <;> decide +kernel
  obtain ⟨⟨loaded, load, back⟩, -⟩ :=
    save_load_iff Machine.host "alerts" oddStore {} keeps (by decide +kernel)
  exact ⟨loaded, load, back.mpr fits⟩

end EdgeAlert.Host
