import Std.Time.DateTime.Timestamp
import EdgeAlert.CommandLine

/-!
# Program

The command line on the machine itself: its files, its standard streams and its clock.
-/

namespace EdgeAlert.Program

/-- The fault that an error of the machine stands for. The code of a fault may have its sign turned. -/
def faultOf : IO.Error → FileFault
  | .noFileOrDirectory _ _ _ => .notFound
  | .inappropriateType _ code _ => if code = 21 || code = -21 then .isDirectory else .notDirectory
  | e => .other (toString e)

def attempt {α : Type} (act : IO α) : IO (Except FileFault α) := do
  match ← act.toBaseIO with
  | .ok a => return .ok a
  | .error e => return .error (faultOf e)

def parent? (path : String) : Option String :=
  match (Text.cut '/' path.toList).dropLast with
  | [] | [[]] => none
  | pieces => some ("/".intercalate (pieces.map String.ofList))

def writeFile (path : String) (bytes : List UInt8) : IO Unit := do
  match parent? path with
  | some parent => IO.FS.createDirAll parent
  | none => pure ()
  IO.FS.writeBinFile path ⟨bytes.toArray⟩

/-- Goes through the lines of a stream. The bytes of a line that has begun are given in reverse. -/
partial def forLines {σ : Type} (input : IO.FS.Stream) (step : List UInt8 → σ → IO (ForInStep σ))
    (begun : List UInt8) (state : σ) : IO σ := do
  match (← input.read 1).toList with
  | [] =>
    if begun = [] then return state
    match ← step begun.reverse state with
    | .done state | .yield state => return state
  | byte :: _ =>
    if byte ≠ 10 then forLines input step (byte :: begun) state
    else match ← step (Text.dropReturn 13 begun.reverse) state with
      | .done state => return state
      | .yield state => forLines input step [] state

def now : IO Timestamp := do
  let nanoseconds := (← Std.Time.Timestamp.now).toNanosecondsSinceUnixEpoch.toInt
  return { seconds := nanoseconds / 1000000000, nanoseconds := (nanoseconds % 1000000000).toNat }

def logLine (time : Timestamp) (notice : Notice) : String :=
  " ".intercalate ([time.toText, notice.level.name, notice.message] ++
    notice.fields.map fun (name, value) => name ++ "=" ++ value)

def host : Host IO where
  readFile path := attempt do return (← IO.FS.readBinFile path).toList
  writeFile path bytes := attempt (writeFile path bytes)
  forLines state step := do forLines (← IO.getStdin) step [] state
  printLine line := do
    let output ← IO.getStdout
    output.putStrLn line
    output.flush
  printError line := do (← IO.getStderr).putStrLn line
  notify notice := do (← IO.getStderr).putStrLn (logLine (← now) notice)
  now := now

end EdgeAlert.Program

def main (arguments : List String) : IO UInt32 := EdgeAlert.Program.host.run arguments
