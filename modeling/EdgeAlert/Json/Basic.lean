import EdgeAlert.Binary.Basic
import EdgeAlert.OrderedMap

/-!
# JSON values

A JSON value in memory. Whole numbers are exact from the least integer of eight signed bytes to the
greatest of eight unsigned ones; every other number is a finite double. Objects keep the order of
their members.
-/

namespace EdgeAlert

abbrev JsonInteger := { i : Int // -0x8000000000000000 ≤ i ∧ i < 0x10000000000000000 }

inductive Json where
  | null
  | bool (value : Bool)
  | integer (value : JsonInteger)
  | float (negative : Bool) (magnitude : Magnitude .double)
  | string (value : String)
  | array (items : List Json)
  | object (members : List (String × Json))

namespace Json

mutual

def decEq : (x y : Json) → Decidable (x = y)
  | .null, y => match y with
    | .null => isTrue rfl
    | .bool _ | .integer _ | .float _ _ | .string _ | .array _ | .object _ =>
      isFalse (by intro h; cases h)
  | .bool a, y => match y with
    | .bool b => decidable_of_iff (a = b) (by simp)
    | .null | .integer _ | .float _ _ | .string _ | .array _ | .object _ =>
      isFalse (by intro h; cases h)
  | .integer a, y => match y with
    | .integer b => decidable_of_iff (a = b) (by simp)
    | .null | .bool _ | .float _ _ | .string _ | .array _ | .object _ =>
      isFalse (by intro h; cases h)
  | .float s a, y => match y with
    | .float t b => decidable_of_iff (s = t ∧ a = b) (by simp)
    | .null | .bool _ | .integer _ | .string _ | .array _ | .object _ =>
      isFalse (by intro h; cases h)
  | .string a, y => match y with
    | .string b => decidable_of_iff (a = b) (by simp)
    | .null | .bool _ | .integer _ | .float _ _ | .array _ | .object _ =>
      isFalse (by intro h; cases h)
  | .array a, y => match y with
    | .array b => match decEqItems a b with
      | isTrue h => isTrue (by rw [h])
      | isFalse h => isFalse (by intro e; injection e; contradiction)
    | .null | .bool _ | .integer _ | .float _ _ | .string _ | .object _ =>
      isFalse (by intro h; cases h)
  | .object a, y => match y with
    | .object b => match decEqMembers a b with
      | isTrue h => isTrue (by rw [h])
      | isFalse h => isFalse (by intro e; injection e; contradiction)
    | .null | .bool _ | .integer _ | .float _ _ | .string _ | .array _ =>
      isFalse (by intro h; cases h)

def decEqItems : (xs ys : List Json) → Decidable (xs = ys)
  | [], [] => isTrue rfl
  | [], _ :: _ | _ :: _, [] => isFalse (by intro h; cases h)
  | x :: xs, y :: ys => match decEq x y, decEqItems xs ys with
    | isTrue h, isTrue t => isTrue (by rw [h, t])
    | isFalse h, _ => isFalse (by intro e; injection e; contradiction)
    | _, isFalse t => isFalse (by intro e; injection e; contradiction)

def decEqMembers : (xs ys : List (String × Json)) → Decidable (xs = ys)
  | [], [] => isTrue rfl
  | [], _ :: _ | _ :: _, [] => isFalse (by intro h; cases h)
  | (m, x) :: xs, (n, y) :: ys =>
    match decEq x y, decEqMembers xs ys, (inferInstance : Decidable (m = n)) with
    | isTrue h, isTrue t, isTrue e => isTrue (by rw [h, t, e])
    | isFalse h, _, _ => isFalse (by intro e; injection e with e; injection e; contradiction)
    | _, isFalse t, _ => isFalse (by intro e; injection e; contradiction)
    | _, _, isFalse t => isFalse (by intro e; injection e with e; injection e; contradiction)

end

instance : DecidableEq Json := decEq

def ofInt? (i : Int) : Option Json :=
  if h : -0x8000000000000000 ≤ i ∧ i < 0x10000000000000000 then some (.integer ⟨i, h⟩) else none

/-- A double as a value; the numbers that are not finite become null. -/
def ofDouble : Binary .double → Json
  | .finite negative m => .float negative m
  | .nan | .infinite _ => .null

end Json
end EdgeAlert
