import EdgeAlert.Alert
import EdgeAlert.Proofs.Event.Insertion

/-!
# Flattened alerts

An alert is flattened into one event: its own four fields come first, and the properties that it copied
are inserted after them. `flatten_loses_nothing` says in which order the names then stand and what each of
them gives, whichever of the four names the copied properties use themselves.
-/

namespace EdgeAlert

namespace Alert

def ownNames : List String := ["alertLevel", "alertAttribute", "alertPattern", "alertBackToNormal"]

def field? (a : Alert) : String → Option Value
  | "alertLevel" => some (.text a.level.name)
  | "alertAttribute" => some (.text a.identity)
  | "alertPattern" => some (.text a.pattern)
  | "alertBackToNormal" => some (.boolean a.backToNormal)
  | _ => none

theorem names_fields (a : Alert) : a.fields.map Prod.fst = ownNames := rfl

theorem get?_fields (a : Alert) (name : String) : (OrderedMap.ofList a.fields).get? name = a.field? name := by
  have distinct : (a.fields.map Prod.fst).Nodup := by
    rw [names_fields]
    decide
  rw [OrderedMap.get?_ofList, valueOf?_reverse distinct]
  unfold field?
  split
  · rfl
  · rfl
  · rfl
  · rfl
  · rename_i level identity pattern backToNormal
    rw [valueOf?_eq_none_iff, names_fields]
    simp only [ownNames, List.mem_cons, List.not_mem_nil, or_false, not_or]
    exact ⟨level, identity, pattern, backToNormal⟩

theorem names_flatten (a : Alert) :
    a.flatten.properties.names = ownNames ++ a.properties.names.filter (· ∉ ownNames) :=
  OrderedMap.names_insertAll _ a.properties.nodup_names

/-- The value of a name in a flattened alert is that of the copied properties, if they have the name, and
otherwise that of the alert's own field. -/
theorem get?_flatten (a : Alert) (name : String) :
    a.flatten.properties.get? name = (a.properties.get? name).or (a.field? name) := by
  rw [flatten, OrderedMap.get?_insertAll, valueOf?_reverse a.properties.nodup, get?_fields]
  rfl

theorem type?_flatten (a : Alert) : a.flatten.type? = Event.typeOf? a.properties := by
  have foreign : a.field? Event.typeProperty = none := rfl
  rw [Event.type?, Event.typeOf?, get?_flatten, foreign, Option.or_none, Event.typeOf?]

/-- Flattening an alert loses and reorders nothing. -/
theorem flatten_loses_nothing (a : Alert) :
    a.flatten.topic = a.topic ∧
      a.flatten.properties.names = ownNames ++ a.properties.names.filter (· ∉ ownNames) ∧
      a.flatten.properties.names.Nodup ∧
      (∀ name, a.flatten.properties.get? name = (a.properties.get? name).or (a.field? name)) ∧
      a.flatten.type? = Event.typeOf? a.properties ∧
      ∀ (source : Event) (level : Severity) (identity pattern : String) (backToNormal : Bool),
        (about source level identity pattern backToNormal).flatten.type? = source.type? :=
  ⟨rfl, a.names_flatten, a.flatten.properties.nodup_names, a.get?_flatten, a.type?_flatten,
    fun _ _ _ _ _ => type?_flatten _⟩

example :
    let copied : Properties := .ofList
      [("host", .text "A"), ("alertPattern", .other .null), ("type", .text "cpu"),
        ("alertLevel", .boolean true)]
    let flat := (⟨"t", .warn, "cpu-load", "range:[0,1]", true, copied⟩ : Alert).flatten
    flat.properties.names =
        ["alertLevel", "alertAttribute", "alertPattern", "alertBackToNormal", "host", "type"] ∧
      flat.properties.get? "alertLevel" = some (.boolean true) ∧ flat.type? = some "cpu" := by
  decide

end Alert
end EdgeAlert
