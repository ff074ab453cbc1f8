import EdgeAlert.Host
import EdgeAlert.OrderedMap
import EdgeAlert.Text.Fields

/-!
# Files in memory

A tree of files as a map from paths to contents. A directory is there as long as a path goes through
it; writing a file makes the directories that it needs.
-/

namespace EdgeAlert

/-- A tree of files. Its keys are the paths from its root, without parts that lead nowhere. -/
abbrev Files := OrderedMap (List UInt8)

namespace Files

def parts (path : String) : List String := (Text.cut '/' path.toList).map String.ofList

def stays (part : String) : Bool := part = "" || part = "."

def key (path : List String) : String := "/".intercalate path

def ofList (files : List (String × List UInt8)) : Files :=
  OrderedMap.ofList (files.map fun (path, bytes) => (key ((parts path).filter (!stays ·)), bytes))

def isDirectory (files : Files) (path : List String) : Bool :=
  path = [] || files.names.any fun name =>
    (Text.after? (key path ++ "/").toList name.toList).isSome

/-- Where parts lead from a directory. With `making`, directories on the way are made if they are not
there. -/
def walk (files : Files) (making : Bool) (here : List String) :
    List String → Except FileFault (List String)
  | [] => .ok here
  | part :: rest =>
    if stays part then walk files making here rest
    else if part = ".." then walk files making here.dropLast rest
    else
      let next := here ++ [part]
      if rest = [] then .ok next
      else if (files.get? (key next)).isSome then .error .notDirectory
      else if making || isDirectory files next then walk files making next rest
      else .error .notFound

def endsDirectory (part : String) : Bool := stays part || part = ".."

/-- The key of the file that a path may be that of. No file has a path with a null character. -/
def locate (files : Files) (making : Bool) (path : String) : Except FileFault String := do
  if path = "" || path.toList.contains '\x00' then throw .notFound
  let here ← walk files making [] (parts path)
  if isDirectory files here then throw .isDirectory
  if (parts path).getLast?.any endsDirectory then throw .notFound
  return key here

def read (files : Files) (path : String) : Except FileFault (List UInt8) := do
  match files.get? (← locate files false path) with
  | some bytes => return bytes
  | none => throw .notFound

def write (files : Files) (path : String) (bytes : List UInt8) : Except FileFault Files := do
  return files.insert (← locate files true path) bytes

end Files

/-- What a program has done on a host in memory. -/
structure Machine where
  files : Files := .empty
  input : List (List UInt8) := []
  output : List String := []
  errors : List String := []
  notices : List Notice := []
  clock : Timestamp := ⟨0, 0⟩

def Machine.host : Host (StateM Machine) where
  readFile path := return (← get).files.read path
  writeFile path bytes := do
    match (← get).files.write path bytes with
    | .error fault => return .error fault
    | .ok files =>
      modify fun machine => { machine with files }
      return .ok ()
  forLines state step := do
    let lines := (← get).input
    modify fun machine => { machine with input := [] }
    forIn lines state step
  printLine line := modify fun machine => { machine with output := machine.output ++ [line] }
  printError line := modify fun machine => { machine with errors := machine.errors ++ [line] }
  notify notice := modify fun machine => { machine with notices := machine.notices ++ [notice] }
  now := return (← get).clock

end EdgeAlert
