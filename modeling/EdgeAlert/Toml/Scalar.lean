import EdgeAlert.Decimal.Integer
import EdgeAlert.Text.Hex
import EdgeAlert.Time.Calendar
import EdgeAlert.Toml.Basic

/-!
# Numbers and times in TOML

Reading integers in four bases, floating-point numbers, and dates and times. Single underscores may
stand between digits.
-/

namespace EdgeAlert.Toml

/-- The rest of a run of digits: more of them, and single underscores that have a digit after them. -/
def takeRunOn (isDigit : Char → Bool) : List Char → List Char × List Char
  | [] => ([], [])
  | c :: cs =>
    if isDigit c then
      let (ds, rest) := takeRunOn isDigit cs
      (c :: ds, rest)
    else if c = '_' ∧ cs.head?.any isDigit then takeRunOn isDigit cs
    else ([], c :: cs)

def takeRun (isDigit : Char → Bool) (cs : List Char) : List Char × List Char :=
  if cs.head?.any isDigit then takeRunOn isDigit cs else ([], cs)

def takeSign : List Char → Bool × List Char
  | '-' :: rest => (true, rest)
  | '+' :: rest => (false, rest)
  | cs => (false, cs)

def readWhole (cs : List Char) : Option (Bool × List Char × List Char) :=
  let (negative, rest) := takeSign cs
  match rest with
  | '0' :: rest => some (negative, ['0'], rest)
  | rest =>
    let (ds, rest) := takeRun Decimal.isDigit rest
    if ds = [] then none else some (negative, ds, rest)

def readBase (base : Nat) (value? : Char → Option Nat) (cs : List Char) :
    Option (Value × List Char) := do
  let (ds, rest) := takeRun (fun c => (value? c).isSome) cs
  if ds = [] then none
  else
    let n := ds.foldl (fun n c => base * n + (value? c).getD 0) 0
    return (.integer (← Signed.ofInt? 64 n), rest)

def digitBelow (base : Nat) (c : Char) : Option Nat :=
  if Decimal.isDigit c ∧ Decimal.digitValue c < base then some (Decimal.digitValue c) else none

def readInteger : List Char → Option (Value × List Char)
  | '0' :: 'x' :: rest => readBase 16 Text.hexValue? rest
  | '0' :: 'o' :: rest => readBase 8 (digitBelow 8) rest
  | '0' :: 'b' :: rest => readBase 2 (digitBelow 2) rest
  | cs => do
    let (negative, ds, rest) ← readWhole cs
    let n : Int := Decimal.readNat ds
    return (.integer (← Signed.ofInt? 64 (if negative then -n else n)), rest)

def readFraction : List Char → Option (List Char × List Char)
  | '.' :: rest =>
    let (ds, rest) := takeRun Decimal.isDigit rest
    if ds = [] then none else some (ds, rest)
  | _ => none

def readExponent : List Char → Option (Int × List Char)
  | c :: rest =>
    if c = 'e' ∨ c = 'E' then
      let (negative, rest) := takeSign rest
      let (ds, rest) := takeRun Decimal.isDigit rest
      let n : Int := Decimal.readNat ds
      if ds = [] then none else some (if negative then -n else n, rest)
    else none
  | [] => none

/-- A floating-point number with a fraction or an exponent. One that is too large is refused, and one
that is too small below zero is an infinity. -/
def readDigitsFloat (cs : List Char) : Option (Value × List Char) := do
  let (negative, ds, rest) ← readWhole cs
  let (fraction, exponent, rest) ← match readFraction rest with
    | some (fraction, rest) => match readExponent rest with
      | some (exponent, rest) => some (fraction, exponent, rest)
      | none => some (fraction, 0, rest)
    | none => (readExponent rest).map fun (exponent, rest) => ([], exponent, rest)
  let x := Binary.ofDecimal .double negative (Decimal.readNat (ds ++ fraction))
    (exponent - fraction.length)
  if x.isPositiveInfinity then none else return (.float x, rest)

def readFloat (cs : List Char) : Option (Value × List Char) :=
  match readDigitsFloat cs with
  | some found => some found
  | none =>
    let (negative, rest) := takeSign cs
    match rest with
    | 'i' :: 'n' :: 'f' :: rest => some (.float (.infinite negative), rest)
    | 'n' :: 'a' :: 'n' :: rest => some (.float .nan, rest)
    | _ => none

def readFixed (width : Nat) (cs : List Char) : Option (Nat × List Char) :=
  let ds := (cs.take width).takeWhile Decimal.isDigit
  if ds.length = width then some (Decimal.readNat ds, cs.drop width) else none

def afterMark (mark : Char) : List Char → Option (List Char)
  | c :: rest => if c = mark then some rest else none
  | [] => none

def two (n : Nat) : List Char := [Nat.digitChar (n / 10), Nat.digitChar (n % 10)]

def four (n : Nat) : List Char := two (n / 100) ++ two (n % 100)

def readDate (cs : List Char) : Option (List Char × List Char) := do
  let (year, rest) ← readFixed 4 cs
  let (month, rest) ← readFixed 2 (← afterMark '-' rest)
  let (day, rest) ← readFixed 2 (← afterMark '-' rest)
  if 1 ≤ month ∧ month ≤ 12 ∧ 1 ≤ day ∧ day ≤ Time.daysInMonth year month then
    return (four year ++ '-' :: two month ++ '-' :: two day, rest)
  else none

/-- The digits of a fraction of a second that are kept: nine, without zeros at the end. -/
def keptFraction (ds : List Char) : List Char :=
  match (((ds.take 9).reverse).dropWhile (· = '0')).reverse with
  | [] => []
  | kept => '.' :: kept

def readTime (cs : List Char) : Option (List Char × List Char) := do
  let (hour, rest) ← readFixed 2 cs
  let (minute, rest) ← readFixed 2 (← afterMark ':' rest)
  let (second, rest) ← readFixed 2 (← afterMark ':' rest)
  if hour < 24 ∧ minute < 60 ∧ second ≤ 60 then
    let text := two hour ++ ':' :: two minute ++ ':' :: two second
    match rest with
    | '.' :: after =>
      let ds := after.takeWhile Decimal.isDigit
      if ds = [] then return (text, rest) else return (text ++ keptFraction ds, after.drop ds.length)
    | _ => return (text, rest)
  else none

def readOffset : List Char → Option (List Char × List Char)
  | 'Z' :: rest | 'z' :: rest => some (['Z'], rest)
  | cs =>
    let (negative, rest) := takeSign cs
    if rest = cs then some ([], cs)
    else do
      let (hour, rest) ← readFixed 2 rest
      let (minute, rest) ← readFixed 2 (← afterMark ':' rest)
      let sign := if negative ∧ hour * 60 + minute ≠ 0 then '-' else '+'
      if hour < 24 ∧ minute < 60 then return (sign :: two hour ++ ':' :: two minute, rest) else none

def isTimeMark (c : Char) : Bool := c = 'T' || c = 't' || c = ' '

/-- A date, a time, or a date with a time and perhaps an offset. -/
def readDatetime (cs : List Char) : Option (Value × List Char) :=
  match readDate cs with
  | some (date, rest) =>
    let timed := match rest with
      | c :: rest => if isTimeMark c then readTime rest else none
      | [] => none
    match timed with
    | none => some (.datetime (String.ofList date), rest)
    | some (time, rest) => (readOffset rest).map fun (offset, rest) =>
      (.datetime (String.ofList (date ++ 'T' :: time ++ offset)), rest)
  | none => (readTime cs).map fun (time, rest) => (.datetime (String.ofList time), rest)

def readNumeric (cs : List Char) : Option (Value × List Char) :=
  ((readDatetime cs).or (readFloat cs)).or (readInteger cs)

end EdgeAlert.Toml
