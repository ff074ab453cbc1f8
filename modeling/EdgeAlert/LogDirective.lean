import EdgeAlert.Decimal.Reading
import EdgeAlert.Notice
import EdgeAlert.Regex
import EdgeAlert.Text.Blank

/-!
# Log directives

A log directive says which notices the operator sees: `target[span{field=value,…}]=level`, where every
part may be left out. The reader goes through the text character by character; the places it remembers
are counted in the trimmed text but cut out of the whole one, so a text with blanks around it is
seldom a directive.
-/

namespace EdgeAlert

inductive LogLevel where
  | off
  | error
  | warn
  | info
  | debug
  | trace
  deriving DecidableEq

namespace LogLevel

/-- The level with a name, in any case, or with a number. -/
def read? (cs : List Char) : Option LogLevel :=
  match Decimal.readInt? cs, String.ofList (cs.map Char.toLower) with
  | some 0, _ | none, "off" => some .off
  | some 1, _ | none, "error" => some .error
  | some 2, _ | none, "warn" => some .warn
  | some 3, _ | none, "info" => some .info
  | some 4, _ | none, "debug" => some .debug
  | some 5, _ | none, "trace" => some .trace
  | _, _ => none

/-- The level after an equals sign, where nothing means everything. -/
def readGiven? (cs : List Char) : Option LogLevel := if cs = [] then some .trace else read? cs

end LogLevel

/-- Which notices are shown, and of which part of the program. -/
structure LogDirective where
  level : LogLevel := .trace
  target : Option (List Char) := none
  deriving DecidableEq

namespace LogDirective

/-- Where in a directive the reader is, with the start of the part that it reads. -/
inductive Place where
  | start
  | name (start : Nat)
  | span
  | field (start : Nat)
  | fields
  | target
  | level (start : Nat)
  | done
  deriving DecidableEq

def startsName (c : Char) : Bool :=
  c = '-' || c = ':' || c = '_' || Unicode.alphanumeric.contains c

/-- The directive of a level or of a target alone. -/
def ofName (cs : List Char) : LogDirective :=
  match LogLevel.read? cs with
  | some level => { level }
  | none => { target := some cs }

def isField (cs : List Char) : Bool :=
  match Text.cut '=' cs with
  | _ :: value :: _ =>
    cs ≠ [] && ((Decimal.readBinary? .double value).isSome || (Regex.read? value).isSome)
  | _ => cs ≠ []

def slice (text : List Char) (start stop : Nat) : List Char := (text.take stop).drop start

def step (text : List Char) (i : Nat) (c : Char) (d : LogDirective) :
    Place → Option (Place × LogDirective)
  | .start =>
    if c = '[' then some (.span, d) else if startsName c then some (.name i, d) else none
  | .name start =>
    if c = '=' then some (.level (i + 1), { d with target := slice text start i })
    else if c = '[' then some (.span, { d with target := slice text start i })
    else if c = ',' then some (.done, ofName (text.drop start))
    else some (.name start, d)
  | .span =>
    some (if c = ']' then .target else if c = '\x7b' then .field (i + 1) else .span, d)
  | .field start =>
    if c = '\x7d' then if isField (slice text start i) then some (.fields, d) else none
    else if c = ',' then if isField (slice text start i) then some (.field (i + 1), d) else none
    else some (.field start, d)
  | .fields => if c = ']' then some (.target, d) else none
  | .target => if c = '=' then some (.level (i + 1), d) else none
  | .level start =>
    if c = ',' then
      (LogLevel.readGiven? (slice text start i)).map fun level => (.done, { d with level })
    else some (.level start, d)
  | .done => none

def finish (text : List Char) (d : LogDirective) : Place → Option LogDirective
  | .name start => some (ofName (text.drop start))
  | .level start => (LogLevel.readGiven? (text.drop start)).map fun level => { d with level }
  | .target | .done => some d
  | .start | .span | .field _ | .fields => none

def readFrom (text : List Char) (i : Nat) (place : Place) (d : LogDirective) :
    List Char → Option LogDirective
  | [] => finish text d place
  | c :: cs => (step text i c d place).bind fun (place, d) => readFrom text (i + 1) place d cs

def read? (text : String) : Option LogDirective :=
  readFrom text.toList 0 .start {} (Text.trim text.toList)

def shows (d : LogDirective) : NoticeLevel → Bool
  | .error => d.level ≠ .off
  | .warn => d.level ≠ .off && d.level ≠ .error
  | .info => d.level = .info || d.level = .debug || d.level = .trace

end LogDirective
end EdgeAlert
