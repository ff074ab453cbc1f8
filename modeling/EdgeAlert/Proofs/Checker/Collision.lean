import EdgeAlert.Proofs.Checker.Clearing
import EdgeAlert.Proofs.Text.Cut

/-!
# When identities collide

An identity joins its parts with hyphens, and the parts may have hyphens themselves.
`identity_eq_iff`: two identities are the same exactly if their parts, cut at all their hyphens, are. So
they tell types, attributes and instances apart as long as types and attributes have no hyphens, and
within one type they always tell apart the instances of an attribute. `hyphens_collide` is a type that
swallows the alert of another.
-/

namespace EdgeAlert

namespace Event

variable {event event' : Event} {rules rules' : Rules} {type? type?' : Option String}
  {name name' : String}

/-- The value that tells the instances of the attributes of a type apart, if the rules name a property
for it. -/
def instanceText? (event : Event) (rules : Rules) (type? : Option String) : Option String :=
  (type?.bind rules.instanceProperty?).map fun property =>
    ((event.properties.get? property).map Value.display).getD absentValue

/-- What an identity is joined from. -/
def identityParts (event : Event) (rules : Rules) (type? : Option String) (name : String) :
    List String :=
  type?.toList ++ name :: (event.instanceText? rules type?).toList

/-- The stretches of the parts of an identity between their hyphens. -/
def identityPieces (event : Event) (rules : Rules) (type? : Option String) (name : String) :
    List (List Char) :=
  (event.identityParts rules type? name).flatMap fun part => Text.cut '-' part.toList

theorem identity_eq_join :
    event.identity rules type? name = "-".intercalate (event.identityParts rules type? name) := by
  unfold identity identityParts instanceText?
  cases type? with
  | none => rfl
  | some type =>
    rw [Option.bind_some]
    dsimp only
    cases rules.instanceProperty? type with
    | none => simp
    | some property => simp [String.append_assoc]

theorem cut_identity : Text.cut '-' (event.identity rules type? name).toList =
    event.identityPieces rules type? name := by
  have some : (event.identityParts rules type? name).map String.toList ≠ [] := by
    simp [identityParts]
  have hyphen : "-".toList = ['-'] := rfl
  rw [identity_eq_join, String.toList_intercalate, hyphen, Text.cut_intercalate some, identityPieces,
    List.flatMap_map]

theorem identity_eq_iff :
    event.identity rules type? name = event'.identity rules' type?' name' ↔
      event.identityPieces rules type? name = event'.identityPieces rules' type?' name' := by
  rw [← cut_identity, ← cut_identity, Text.cut_inj, String.toList_inj]

theorem pieces_inj {text? text?' : Option String} :
    (text?.toList.flatMap fun text => Text.cut '-' text.toList) =
      (text?'.toList.flatMap fun text => Text.cut '-' text.toList) ↔ text? = text?' := by
  cases text? with
  | none =>
    cases text?' with
    | none => simp
    | some text' => simpa using Ne.symm (Text.cut_ne_nil '-' text'.toList)
  | some text =>
    cases text?' with
    | none => simpa using Text.cut_ne_nil '-' text.toList
    | some text' => simp [Text.cut_inj, String.toList_inj]

theorem identityPieces_of_whole (types : ∀ type ∈ type?, '-' ∉ type.toList) (names : '-' ∉ name.toList) :
    event.identityPieces rules type? name =
      type?.toList.map String.toList ++ name.toList ::
        (event.instanceText? rules type?).toList.flatMap fun text => Text.cut '-' text.toList := by
  unfold identityPieces identityParts
  rw [List.flatMap_append, List.flatMap_cons, Text.cut_of_notMem names]
  cases type? with
  | none => rfl
  | some type => simp [Text.cut_of_notMem (types type rfl)]

theorem parts_of_identity_eq (types : ∀ type ∈ type?, '-' ∉ type.toList) (names : '-' ∉ name.toList)
    (types' : ∀ type ∈ type?', '-' ∉ type.toList) (names' : '-' ∉ name'.toList)
    (same : event.identity rules type? name = event'.identity rules type?' name') :
    type? = type?' ∧ name = name' ∧
      event.instanceText? rules type? = event'.instanceText? rules type?' := by
  rw [identity_eq_iff, identityPieces_of_whole types names, identityPieces_of_whole types' names'] at same
  cases type? with
  | none =>
    cases type?' with
    | none =>
      obtain ⟨here, -⟩ := List.cons_eq_cons.mp same
      exact ⟨rfl, String.toList_inj.mp here, rfl⟩
    | some type' =>
      obtain ⟨-, rest⟩ := List.cons_eq_cons.mp same
      cases rest
  | some type =>
    cases type?' with
    | none =>
      obtain ⟨-, rest⟩ := List.cons_eq_cons.mp same
      cases rest
    | some type' =>
      obtain ⟨first, rest⟩ := List.cons_eq_cons.mp same
      obtain ⟨second, texts⟩ := List.cons_eq_cons.mp rest
      obtain rfl := String.toList_inj.mp first
      exact ⟨rfl, String.toList_inj.mp second, pieces_inj.mp texts⟩

theorem name_eq_iff (same : event.identity rules type? name = event'.identity rules type? name') :
    name = name' ↔ event.instanceText? rules type? = event'.instanceText? rules type? := by
  constructor
  · rintro rfl
    rw [identity_eq_iff, identityPieces, identityPieces, identityParts, identityParts,
      List.flatMap_append, List.flatMap_append, List.append_right_inj, List.flatMap_cons,
      List.flatMap_cons, List.append_right_inj, pieces_inj] at same
    exact same
  · intro texts
    refine event.identity_injective rules type? ?_
    rw [same, identity_eq_join, identity_eq_join, identityParts, identityParts, texts]

/-- Two identities under the same rules are the same exactly if their parts, cut at their hyphens, are the
same pieces. -/
theorem identities_tell_apart (rules : Rules) (event event' : Event) (type? type?' : Option String)
    (name name' : String) :
    (event.identity rules type? name = event'.identity rules type?' name' ↔
      event.identityPieces rules type? name = event'.identityPieces rules type?' name') ∧
    ((∀ part ∈ type?.toList ++ name :: (type?'.toList ++ [name']), '-' ∉ part.toList) →
      event.identity rules type? name = event'.identity rules type?' name' →
      type? = type?' ∧ name = name' ∧
        event.instanceText? rules type? = event'.instanceText? rules type?') ∧
    (event.identity rules type? name = event'.identity rules type? name' →
      (name = name' ↔ event.instanceText? rules type? = event'.instanceText? rules type?)) := by
  refine ⟨identity_eq_iff, fun whole same => ?_, name_eq_iff⟩
  refine parts_of_identity_eq (fun type here => whole type ?_) (whole name ?_)
    (fun type here => whole type ?_) (whole name' ?_) same
  all_goals simp_all

theorem hosts_told_apart :
    let busy := Checker.usageOn "web-1" ⟨95, by decide⟩
    let idle := Checker.usageOn "web-1" ⟨10, by decide⟩
    let other := Checker.usageOn "web-2" ⟨95, by decide⟩
    let identity := fun event : Event => event.identity Checker.usageRules (some "cpu") "usage"
    let host := fun event : Event => event.instanceText? Checker.usageRules (some "cpu")
    identity busy = identity idle ∧ host busy = host idle ∧ identity busy ≠ identity other := by
  intro busy idle other identity host
  have whole : ∀ part ∈ (some "cpu").toList ++ "usage" :: ((some "cpu").toList ++ ["usage"]),
      '-' ∉ part.toList := by decide
  have same : identity busy = identity idle := by decide +kernel
  have apart : ∀ event : Event, identity busy = identity event → host busy = host event := by
    intro event same
    exact ((identities_tell_apart Checker.usageRules busy event _ _ _ _).2.1 whole same).2.2
  exact ⟨same, apart idle same, fun same => absurd (apart other same) (by decide +kernel)⟩

def reading (type name : String) (value : Signed 64) : Event where
  topic := "decanter/collect/" ++ type
  properties := .ofList [("type", .text type), (name, .long value)]

/-- Two attributes of two types share an identity, and the second is not heard of after the first. -/
theorem hyphens_collide :
    let rules : Rules := .ofList [("usage.error", "range:[0,90]"), ("core-usage.error", "range:[0,90]")]
    let first := reading "cpu-core" "usage" ⟨95, by decide⟩
    let second := reading "cpu" "core-usage" ⟨95, by decide⟩
    let alerts := fun events : List Event =>
      (Checker.run ⟨rules, {}⟩ (events.map .handle)).2.map fun a => (a.identity, a.backToNormal)
    first.identity rules first.type? "usage" = second.identity rules second.type? "core-usage" ∧
      first.type? = some "cpu-core" ∧ second.type? = some "cpu" ∧
      alerts [first] = [("cpu-core-usage", false)] ∧ alerts [second] = [("cpu-core-usage", false)] ∧
      alerts [first, second] = [("cpu-core-usage", false)] := by
  decide +kernel

end Event
end EdgeAlert
