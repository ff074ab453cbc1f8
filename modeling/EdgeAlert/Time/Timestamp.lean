import EdgeAlert.Decimal.Integer
import EdgeAlert.Text.Blank
import EdgeAlert.Time.Calendar

/-!
# Timestamps

An instant in UTC and its text in the profile of RFC 3339. Writing uses as many fraction digits as
are needed of 0, 3, 6 and 9. Reading allows white space between the parts, short numbers, a signed
year, a blank in place of the `T`, and offsets without minutes.
-/

namespace EdgeAlert

/-- Seconds since 1970 and nanoseconds. A leap second is kept as its predecessor with a billion
nanoseconds more. -/
structure Timestamp where
  seconds : Int
  nanoseconds : Nat
  deriving DecidableEq

namespace Timestamp

def pad (width n : Nat) : List Char :=
  let ds := Decimal.digits n
  List.replicate (width - ds.length) '0' ++ ds

def writeYear (year : Int) : List Char :=
  if 0 ≤ year ∧ year ≤ 9999 then pad 4 year.toNat
  else (if year < 0 then '-' else '+') :: pad 4 year.natAbs

def writeFraction (nanoseconds : Nat) : List Char :=
  if nanoseconds = 0 then []
  else if nanoseconds % 1000000 = 0 then '.' :: pad 3 (nanoseconds / 1000000)
  else if nanoseconds % 1000 = 0 then '.' :: pad 6 (nanoseconds / 1000)
  else '.' :: pad 9 nanoseconds

def writeLocal (t : Timestamp) : List Char :=
  let date := Time.Date.ofDays (t.seconds / 86400)
  let time := (t.seconds % 86400).toNat
  let leap := t.nanoseconds / 1000000000
  writeYear date.year ++ '-' :: pad 2 date.month ++ '-' :: pad 2 date.day ++
    'T' :: pad 2 (time / 3600) ++ ':' :: pad 2 (time / 60 % 60) ++ ':' :: pad 2 (time % 60 + leap) ++
    writeFraction (t.nanoseconds % 1000000000)

def toText (t : Timestamp) : String := String.ofList (t.writeLocal ++ "+00:00".toList)

def toZuluText (t : Timestamp) : String := String.ofList (t.writeLocal ++ ['Z'])

def readDigits (width : Nat) (cs : List Char) : Option (Nat × List Char) :=
  let ds := (cs.take width).takeWhile Decimal.isDigit
  if ds = [] then none else some (Decimal.readNat ds, cs.drop ds.length)

def readField (width : Nat) (cs : List Char) : Option (Nat × List Char) :=
  readDigits width (Text.trimStart cs)

def readYear (cs : List Char) : Option (Int × List Char) :=
  match Text.trimStart cs with
  | '-' :: rest => (readDigits rest.length rest).map fun (n, rest) => (-n, rest)
  | '+' :: rest => (readDigits rest.length rest).map fun (n, rest) => (n, rest)
  | rest => (readDigits 4 rest).map fun (n, rest) => (n, rest)

def readMark (mark : Char) (cs : List Char) : Option (List Char) :=
  match Text.trimStart cs with
  | c :: rest => if c = mark then some rest else none
  | [] => none

/-- The fraction of a second in nanoseconds; digits past the ninth do not count. -/
def readFraction : List Char → Option (Nat × List Char)
  | '.' :: rest => do
    let (n, after) ← readDigits 9 rest
    let count := rest.length - after.length
    return (n * 10 ^ (9 - count), after.dropWhile Decimal.isDigit)
  | cs => some (0, cs)

def readTwo : List Char → Option (Nat × List Char)
  | a :: b :: rest =>
    if Decimal.isDigit a ∧ Decimal.isDigit b then some (Decimal.readNat [a, b], rest) else none
  | _ => none

def readOffsetSize (cs : List Char) : Option (Int × List Char) := do
  let (hours, rest) ← readTwo cs
  match rest.dropWhile fun c => c = ':' || Text.isBlank c with
  | [] => return (hours * 3600, [])
  | rest =>
    let (minutes, rest) ← readTwo rest
    if minutes < 60 then return (hours * 3600 + minutes * 60, rest) else none

def readOffset : List Char → Option (Int × List Char)
  | [] => none
  | c :: rest =>
    if c = 'Z' ∨ c = 'z' then some (0, rest)
    else if (c :: rest.take 2).map Char.toUpper = ['U', 'T', 'C'] then some (0, rest.drop 2)
    else if c = '+' then readOffsetSize rest
    else if c = '-' ∨ c = '\u2212' then
      (readOffsetSize rest).map fun (seconds, rest) => (-seconds, rest)
    else none

def ofParts? (date : Time.Date) (hour minute second nanoseconds : Nat) (offset : Int) :
    Option Timestamp :=
  if date.isValid ∧ hour < 24 ∧ minute < 60 ∧ second ≤ 60 ∧ -86400 < offset ∧ offset < 86400 then
    let seconds := date.toDays * 86400 + (hour * 3600 + minute * 60 + min second 59 : Nat) - offset
    let utc := Time.Date.ofDays (seconds / 86400)
    if Time.yearRange.1 ≤ utc.year ∧ utc.year ≤ Time.yearRange.2 then
      some ⟨seconds, nanoseconds + if second = 60 then 1000000000 else 0⟩
    else none
  else none

def read (text : String) : Option Timestamp := do
  let (year, rest) ← readYear text.toList
  let rest ← readMark '-' rest
  let (month, rest) ← readField 2 rest
  let rest ← readMark '-' rest
  let (day, rest) ← readField 2 rest
  match rest with
  | [] => none
  | c :: rest =>
    if ¬ (c = 'T' ∨ c = 't' ∨ c = ' ') then none
    else
      let (hour, rest) ← readField 2 rest
      let rest ← readMark ':' rest
      let (minute, rest) ← readField 2 rest
      let rest ← readMark ':' rest
      let (second, rest) ← readField 2 rest
      let (nanoseconds, rest) ← readFraction rest
      let (offset, rest) ← readOffset (Text.trimStart rest)
      if Text.trimStart rest = [] then
        ofParts? ⟨year, month, day⟩ hour minute second nanoseconds offset
      else none

end Timestamp
end EdgeAlert
