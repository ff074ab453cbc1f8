import EdgeAlert.Unicode.Age
import EdgeAlert.Unicode.BinaryProperties
import EdgeAlert.Unicode.CaseFolding
import EdgeAlert.Unicode.GeneralCategory
import EdgeAlert.Unicode.Script
import EdgeAlert.Unicode.ScriptExtensions
import EdgeAlert.Unicode.Segmentation
import EdgeAlert.Unicode.Table

/-!
# Unicode properties

Finding the set of characters that a property, or a value of a property, names. Names are compared
loosely: without case, blanks, dashes, underscores and a leading `is`.
-/

namespace EdgeAlert.Unicode

def looseName (name : List Char) : String :=
  let lower := name.map Char.toLower
  let (is?, body) := match lower with
    | 'i' :: 's' :: rest => (true, rest)
    | cs => (false, cs)
  let bare := body.filter fun c => c ≠ ' ' && c ≠ '_' && c ≠ '-' && c.toNat < 0x80
  if is? && bare = ['c'] then "isc" else String.ofList bare

def generalCategory? (name : String) : Option CharSet :=
  match name with
  | "any" => some .all
  | "ascii" => some (.range 0 0x7F)
  | "assigned" => (set? generalCategories "cn").map CharSet.complement
  | _ =>
    match lookup? categoryGroups name with
    | some members => some (.unions (members.map fun m => set generalCategories (String.ofList m)))
    | none => set? generalCategories name

def scriptExtension? (name : String) : Option CharSet :=
  (set? scriptExtensions name).or (set? scripts name)

def age? (name : String) : Option CharSet :=
  let (older, rest) := (entries ages).span fun e => !e.1.contains name
  match rest with
  | [] => none
  | e :: _ => some (.ofRanges ((older ++ [e]).flatMap fun e => e.2.map rangeOf))

def valuedProperties : List String :=
  ["age", "gc", "generalcategory", "script", "scx", "scriptextensions", "gcb",
    "graphemeclusterbreak", "wb", "wordbreak", "sb", "sentencebreak"]

def named? (name : List Char) : Option CharSet :=
  let name := looseName name
  if valuedProperties.contains name then none
  else ((set? binaryProperties name).or (generalCategory? name)).or (set? scripts name)

def valued? (property value : List Char) : Option CharSet :=
  let value := looseName value
  match looseName property with
  | "gc" | "generalcategory" => generalCategory? value
  | "sc" | "script" => set? scripts value
  | "scx" | "scriptextensions" => scriptExtension? value
  | "age" => age? value
  | "gcb" | "graphemeclusterbreak" => set? graphemeBreaks value
  | "wb" | "wordbreak" => set? wordBreaks value
  | "sb" | "sentencebreak" => set? sentenceBreaks value
  | _ => none

def digits : CharSet := set generalCategories "nd"

def spaces : CharSet := set binaryProperties "whitespace"

def wordCharacters : CharSet :=
  .unions [set binaryProperties "alphabetic", set generalCategories "mn", set generalCategories "mc",
    set generalCategories "me", digits, set generalCategories "pc",
    set binaryProperties "joincontrol"]

def alphabetic : CharSet := set binaryProperties "alphabetic"

def alphanumeric : CharSet :=
  .unions [alphabetic, digits, set generalCategories "nl", set generalCategories "no"]

def foldings : List (List Nat) :=
  (words foldingClasses.toList).map fun word =>
    ((String.ofList word).splitOn "=").map fun code => hexNumber code.toList

/-- The set with every character that differs in case alone from one of its own. -/
def foldCase (s : CharSet) : CharSet :=
  .ofRanges (s.ranges ++
    (foldings.filter fun codes => codes.any s.containsCode).flatMap fun codes =>
      codes.map fun n => (n, n))

end EdgeAlert.Unicode
