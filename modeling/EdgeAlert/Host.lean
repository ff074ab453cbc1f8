import EdgeAlert.Store.Snapshot
import EdgeAlert.Time.Timestamp

/-!
# Host

What the program needs of the machine it runs on: files, lines of input, output and the time. The
program is written for any host, so it can run on a tree of files in memory as well as on a disk.
-/

namespace EdgeAlert

inductive FileFault where
  | notFound
  | isDirectory
  | notDirectory
  | notText
  | other (message : String)
  deriving DecidableEq

def FileFault.message : FileFault → String
  | .notFound => "No such file or directory (os error 2)"
  | .isDirectory => "Is a directory (os error 21)"
  | .notDirectory => "Not a directory (os error 20)"
  | .notText => "stream did not contain valid UTF-8"
  | .other message => message

/-- A machine on which the program runs. -/
structure Host (m : Type → Type) where
  readFile : String → m (Except FileFault (List UInt8))
  /-- Writes a file, making the directories that it needs. -/
  writeFile : String → List UInt8 → m (Except FileFault Unit)
  /-- Goes through the lines of the input with a state, until a step is done. -/
  forLines : {σ : Type} → σ → (List UInt8 → σ → m (ForInStep σ)) → m σ
  printLine : String → m Unit
  printError : String → m Unit
  notify : Notice → m Unit
  now : m Timestamp

namespace Host

variable {m : Type → Type} [Monad m]

def readText (host : Host m) (path : String) : m (Except FileFault String) := do
  match ← host.readFile path with
  | .error fault => return .error fault
  | .ok bytes =>
    match Text.ofUtf8? bytes with
    | some text => return .ok text
    | none => return .error .notText

/-- The store in a snapshot file. Without the file it is empty, and nothing is said. -/
def loadStore (host : Host m) (path : String) : m (Except FileFault (Noted Store)) := do
  match ← host.readText path with
  | .error .notFound | .error .notDirectory => return .ok { value := {} }
  | .error fault => return .error fault
  | .ok text => return .ok (Store.ofSnapshot text)

def saveStore (host : Host m) (path : String) (store : Store) : m (Except FileFault (Noted Unit)) := do
  match ← host.writeFile path store.toSnapshot.toUTF8.toList with
  | .error fault => return .error fault
  | .ok () => return .ok { value := (), notices := [.snapshotSaved] }

end Host
end EdgeAlert
