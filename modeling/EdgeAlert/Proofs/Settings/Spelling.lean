import EdgeAlert.Proofs.Settings.Flattening

/-!
# Spellings of a rule

A rule can be nested under the segments of its key, written under the whole key, or under segments that
are joined in groups. `spellings_agree_iff`: it is the same rule, unless a group of several segments begins
with an empty one where no other segment comes before it, since empty segments in front are lost.
-/

namespace EdgeAlert.Settings

open Toml

variable {groups : List (List String)} {path : List String} {outer text : String} {v : Toml.Value}

/-- The segments of a path in one key. -/
def dotted (path : List String) : String := ".".intercalate path

def nested : List String → Toml.Value → Table
  | [], _ => []
  | [key], v => [(key, v)]
  | key :: next :: path, v => [(key, .table (nested (next :: path) v))]

/-- A group of several segments begins with an empty one, after nothing but single empty segments. -/
def Misgrouped (groups : List (List String)) : Prop :=
  ∃ before rest after, groups = before ++ ("" :: rest) :: after ∧ rest ≠ [] ∧ ∀ group ∈ before, group = [""]

/-! ### Keys -/

theorem foldl_joinKey (named : outer ≠ "") (path : List String) :
    path.foldl joinKey outer = dotted (outer :: path) := by
  induction path generalizing outer with
  | nil => exact String.intercalate_singleton.symm
  | cons key path ih =>
    have longer : outer ++ "." ++ key ≠ "" := by simp [named]
    rw [List.foldl_cons, joinKey_of_ne named, ih longer]
    simp [dotted, String.append_assoc]

/-- Empty segments in front are lost, and the others are joined. -/
theorem keyAt_eq_dotted (path : List String) : keyAt path = dotted (path.dropWhile (· = "")) := by
  induction path with
  | nil => rfl
  | cons key path ih =>
    rw [keyAt, List.foldl_cons, joinKey_empty]
    by_cases empty : key = ""
    · rw [empty, List.dropWhile_cons_of_pos (by simp)]
      exact ih
    · rw [List.dropWhile_cons_of_neg (by simpa using empty), foldl_joinKey empty]

theorem keyAt_of_ne {key : String} (named : key ≠ "") (path : List String) :
    keyAt (key :: path) = dotted (key :: path) := by
  rw [keyAt_eq_dotted, List.dropWhile_cons_of_neg (by simpa using named)]

theorem keyAt_empty_cons (path : List String) : keyAt ("" :: path) = keyAt path := rfl

theorem dotted_cons (key : String) (more : path ≠ []) : dotted (key :: path) = key ++ "." ++ dotted path :=
  String.intercalate_cons_of_ne_nil more

theorem dotted_ne_empty {key : String} (other : key :: path ≠ [""]) : dotted (key :: path) ≠ "" := by
  by_cases last : path = []
  · subst last
    show ".".intercalate [key] ≠ ""
    rw [String.intercalate_singleton]
    rintro rfl
    exact other rfl
  · rw [dotted_cons key last]
    simp

theorem length_keyAt_le (path : List String) : (keyAt path).length ≤ (dotted path).length := by
  induction path with
  | nil => exact Nat.le_refl _
  | cons key path ih =>
    by_cases empty : key = ""
    · rw [empty, keyAt_empty_cons]
      by_cases last : path = []
      · rw [last]
        exact Nat.zero_le _
      · rw [dotted_cons "" last, String.length_append]
        omega
    · exact Nat.le_of_eq (congrArg String.length (keyAt_of_ne empty path))

theorem keyAt_empty_ne (more : path ≠ []) : keyAt ("" :: path) ≠ dotted ("" :: path) := by
  intro same
  have shorter := length_keyAt_le path
  rw [← keyAt_empty_cons, same, dotted_cons "" more, String.length_append] at shorter
  have dot : ("" ++ ".").length = 1 := rfl
  omega

theorem dotted_map_dotted (full : ∀ group ∈ groups, group ≠ []) :
    dotted (groups.map dotted) = dotted groups.flatten := by
  induction groups with
  | nil => rfl
  | cons group groups ih =>
    obtain ⟨some, others⟩ := List.forall_mem_cons.mp full
    cases groups with
    | nil => simp [dotted]
    | cons next more =>
      have left : (next :: more).flatten ≠ [] := by simp [others next List.mem_cons_self]
      rw [List.map_cons, dotted_cons _ (by simp), ih others, List.flatten_cons]
      exact (String.intercalate_append_of_ne_nil some left).symm

/-! ### Groups -/

theorem misgrouped_single : Misgrouped ([""] :: groups) ↔ Misgrouped groups := by
  constructor
  · rintro ⟨before, rest, after, split, some, single⟩
    cases before with
    | nil =>
      obtain ⟨same, -⟩ := List.cons_eq_cons.mp split
      exact absurd (List.cons_eq_cons.mp same).2.symm some
    | cons first before =>
      exact ⟨before, rest, after, (List.cons_eq_cons.mp split).2, some,
        fun group member => single group (List.mem_cons_of_mem _ member)⟩
  · rintro ⟨before, rest, after, rfl, some, single⟩
    exact ⟨[""] :: before, rest, after, rfl, some, List.forall_mem_cons.mpr ⟨rfl, single⟩⟩

theorem misgrouped_several {group : List String} (several : group ≠ [""]) :
    Misgrouped (group :: groups) ↔ ∃ rest, group = "" :: rest ∧ rest ≠ [] := by
  constructor
  · rintro ⟨before, rest, after, split, some, single⟩
    cases before with
    | nil => exact ⟨rest, (List.cons_eq_cons.mp split).1, some⟩
    | cons first before =>
      obtain ⟨rfl, -⟩ := List.cons_eq_cons.mp split
      exact absurd (single group List.mem_cons_self) several
  · rintro ⟨rest, rfl, some⟩
    exact ⟨[], rest, groups, rfl, some, List.forall_mem_nil _⟩

theorem misgrouped_alone (nonempty : path ≠ []) :
    ¬Misgrouped [path] ↔ path.head? ≠ some "" ∨ path = [""] := by
  by_cases single : path = [""]
  · rw [single, misgrouped_single]
    exact iff_of_true (fun ⟨_, _, _, split, _⟩ => by simp at split) (.inr rfl)
  · obtain ⟨key, rest, rfl⟩ := List.exists_cons_of_ne_nil nonempty
    rw [misgrouped_several single, or_iff_left single, List.head?_cons, not_iff_not, Option.some.injEq]
    constructor
    · rintro ⟨_, same, -⟩
      exact (List.cons_eq_cons.mp same).1
    · rintro rfl
      exact ⟨rest, rfl, fun none => single (by rw [none])⟩

theorem keyAt_map_dotted_iff (full : ∀ group ∈ groups, group ≠ []) :
    keyAt (groups.map dotted) = keyAt groups.flatten ↔ ¬Misgrouped groups := by
  induction groups with
  | nil =>
    have grouped : ¬Misgrouped [] := by
      rintro ⟨before, rest, after, split, -⟩
      simp at split
    exact iff_of_true rfl grouped
  | cons group groups ih =>
    obtain ⟨some, others⟩ := List.forall_mem_cons.mp full
    by_cases single : group = [""]
    · rw [single, misgrouped_single, ← ih others]
      rfl
    · obtain ⟨key, rest, rfl⟩ := List.exists_cons_of_ne_nil some
      -- The first group joined has some text, so no segment before it is lost.
      rw [misgrouped_several single, List.map_cons, keyAt_of_ne (dotted_ne_empty single), ← List.map_cons,
        dotted_map_dotted full, List.flatten_cons, List.cons_append]
      by_cases empty : key = ""
      · subst empty
        have more : rest ≠ [] := fun none => single (by rw [none])
        refine iff_of_false (Ne.symm (keyAt_empty_ne ?_)) fun grouped => grouped ⟨rest, rfl, more⟩
        simp [more]
      · refine iff_of_true (keyAt_of_ne empty _).symm ?_
        rintro ⟨_, same, -⟩
        exact empty (List.cons_eq_cons.mp same).1

/-! ### Tables with one value -/

theorem inOrder_nested (leaf : IsLeaf v) (path : List String) :
    entriesInOrder (nested path v) = nested path v := by
  fun_induction nested path v with
  | case1 => rfl
  | case2 key v =>
    rw [entriesInOrder, inOrder_leaf leaf]
    rfl
  | case3 key next path v ih =>
    rw [entriesInOrder, inOrder, ih leaf]
    rfl

theorem leafPaths_nested (leaf : IsLeaf v) (some : path ≠ []) : leafPaths (nested path v) = [(path, v)] := by
  fun_induction nested path v with
  | case1 => exact absurd rfl some
  | case2 key v =>
    rw [leafPaths, leafPathsIn_leaf leaf]
    rfl
  | case3 key next path v ih =>
    rw [leafPaths, leafPathsIn, ih leaf (by simp)]
    rfl

theorem flatten_nested (scalar : scalarText? v = some text) (nonempty : path ≠ []) :
    flatten (nested path v) = { value := .insert .empty (keyAt path) text } := by
  have leaf := isLeaf_of_scalar scalar
  rw [flatten_eq, inOrder_nested leaf, leafPaths_nested leaf nonempty]
  show addLeaf { value := .empty } (keyAt path, v) = _
  rw [addLeaf]
  dsimp only
  rw [scalar]

theorem flatten_nested_iff {path' : List String} (scalar : scalarText? v = some text) (nonempty : path ≠ [])
    (nonempty' : path' ≠ []) :
    flatten (nested path v) = flatten (nested path' v) ↔ keyAt path = keyAt path' := by
  rw [flatten_nested scalar nonempty, flatten_nested scalar nonempty']
  constructor
  · intro same
    have entries := congrArg (fun rules : Noted Rules => rules.value.entries) same
    exact (Prod.mk.inj (List.cons_eq_cons.mp entries).1).1
  · intro same
    rw [same]

/-- A rule that is nested along a path and one that is written under the whole key are the same, unless the
path has several segments and begins with an empty one. -/
theorem spellings_agree_iff (scalar : scalarText? v = some text) :
    (∀ path, path ≠ [] →
      (flatten (nested path v) = flatten [(dotted path, v)] ↔ path.head? ≠ some "" ∨ path = [""]) ∧
      flatten (nested path v) = { value := .insert .empty (dotted (path.dropWhile (· = ""))) text }) ∧
    ∀ groups, groups ≠ [] → (∀ group ∈ groups, group ≠ []) →
      (flatten (nested (groups.map dotted) v) = flatten (nested groups.flatten v) ↔ ¬Misgrouped groups) ∧
      (keyAt (groups.map dotted) = keyAt groups.flatten ↔ ¬Misgrouped groups) := by
  have regrouped : ∀ groups, groups ≠ [] → (∀ group ∈ groups, group ≠ []) →
      (flatten (nested (groups.map dotted) v) = flatten (nested groups.flatten v) ↔ ¬Misgrouped groups) := by
    intro groups nonempty full
    have segments : groups.flatten ≠ [] := by
      obtain ⟨group, member⟩ := List.exists_mem_of_ne_nil groups nonempty
      exact fun none => full group member (List.flatten_eq_nil_iff.mp none group member)
    rw [flatten_nested_iff scalar (by simpa using nonempty) segments, keyAt_map_dotted_iff full]
  refine ⟨fun path nonempty => ⟨?_, ?_⟩, fun groups nonempty full =>
    ⟨regrouped groups nonempty full, keyAt_map_dotted_iff full⟩⟩
  · have single := regrouped [path] (by simp) (by simpa using nonempty)
    rw [List.flatten_singleton, misgrouped_alone nonempty] at single
    exact eq_comm.trans single
  · rw [flatten_nested scalar nonempty, keyAt_eq_dotted]

theorem odd_segments_agree :
    let rule := Toml.Value.boolean true
    let groups := [["cpu.load"], ["", "usage"], ["error"]]
    scalarText? rule = some "true" ∧
      flatten (nested ["cpu.load", "", "usage", "error"] rule) = flatten [("cpu.load..usage.error", rule)] ∧
      flatten (nested (groups.map dotted) rule) = flatten (nested groups.flatten rule) := by
  intro rule groups
  have scalar : scalarText? rule = some "true" := rfl
  obtain ⟨alone, grouped⟩ := spellings_agree_iff scalar
  refine ⟨scalar, (alone _ (by decide)).1.mpr (.inl (by decide)), (grouped groups (by decide) (by decide)).1.mpr ?_⟩
  rw [misgrouped_several (by decide)]
  rintro ⟨_, same, -⟩
  exact absurd (List.cons_eq_cons.mp same).1 (by decide)

/-- A rule for the attribute with the empty name is lost if it is nested, and found under its whole key. -/
theorem empty_name_lost :
    let rule := Toml.Value.string "range:[0,90]"
    let apart := (flatten (nested ["", "error"] rule)).value
    let whole := (flatten [(dotted ["", "error"], rule)]).value
    apart ≠ whole ∧ apart.patternFor? "" none .error = none ∧ apart.names = ["error"] ∧
      whole.patternFor? "" none .error = some "range:[0,90]" := by
  decide +kernel

end EdgeAlert.Settings
