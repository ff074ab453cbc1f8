import EdgeAlert.Unicode.CharSet

/-!
# Tables of character sets

Reading the tables in which the sets of the Unicode standard are kept: lines of names, a colon, and
code points or ranges of them in hexadecimal.
-/

namespace EdgeAlert.Unicode

def hexNumber (cs : List Char) : Nat :=
  cs.foldl (fun n c => 16 * n + if c ≤ '9' then c.toNat - '0'.toNat else c.toNat - 'A'.toNat + 10) 0

def words (cs : List Char) : List (List Char) :=
  let (word, words) := cs.foldr (fun c (word, words) =>
    if c = ' ' ∨ c = '\n' then ([], if word = [] then words else word :: words)
    else (c :: word, words)) (([] : List Char), ([] : List (List Char)))
  if word = [] then words else word :: words

def rangeOf (word : List Char) : Nat × Nat :=
  let lo := word.takeWhile (· ≠ '-')
  match word.drop lo.length with
  | _ :: hi => (hexNumber lo, hexNumber hi)
  | [] => (hexNumber lo, hexNumber lo)

def namesOf (cs : List Char) : List String := ((String.ofList cs).splitOn ",")

def entries (table : String) : List (List String × List (List Char)) :=
  (words table.toList).foldr (fun word (entries, pending) =>
    if word.getLast? = some ':' then ((namesOf word.dropLast, pending) :: entries, [])
    else (entries, word :: pending)) (([] : List (List String × List (List Char))), []) |>.1

def lookup? (table name : String) : Option (List (List Char)) :=
  ((entries table).find? fun e => e.1.contains name).map Prod.snd

def set? (table name : String) : Option CharSet :=
  (lookup? table name).map fun words => CharSet.ofRanges (words.map rangeOf)

def set (table name : String) : CharSet := (set? table name).getD .empty

end EdgeAlert.Unicode
