import EdgeAlert.Event
import EdgeAlert.Json.Reader

/-!
# Events as JSON

An event is spelled as an object with a `topic` and perhaps `properties`, or as an array of the two.
What is written is always the object with both.
-/

namespace EdgeAlert

namespace Properties

/-- Properties in the order of the members of an object, a repeated name taking its last value. Their
values may nest `depth` deep. -/
def ofMembers? (depth : Nat) :
    List (List Json.Piece × Json.Syntax) → Properties → Option Properties
  | [], seen => some seen
  | (name, value) :: rest, seen => do
    ofMembers? depth rest (seen.insert (← Json.stringOf? name) (.ofJson (← value.toJson? depth)))

/-- The properties that an object spells; the object itself is one level of the `depth`. -/
def ofSyntax? : (depth : Nat) → Json.Syntax → Option Properties
  | depth + 1, .object members => ofMembers? depth members .empty
  | _, _ => none

def read (text : String) : Option Properties :=
  (Json.readSyntax text).bind (ofSyntax? Json.Syntax.depthLimit)

def writeJson (properties : Properties) : List Char :=
  Json.writeObject (properties.entries.map fun (name, value) => (name, value.writeJson))

def toJson (properties : Properties) : Json :=
  .object (properties.entries.map fun (name, value) => (name, value.toJson))

end Properties

namespace Event

def fieldNames : List String := ["topic", "properties"]

def ofSyntax? (tree : Json.Syntax) : Option Event :=
  match tree.fields? fieldNames with
  | some [some topic, properties] => do
    let topic ← topic.string?
    match properties with
    | none => return { topic }
    | some properties =>
      return { topic, properties := ← Properties.ofSyntax? (Json.Syntax.depthLimit - 1) properties }
  | _ => none

def read (text : String) : Option Event := (Json.readSyntax text).bind ofSyntax?

def writeJson (e : Event) : List Char :=
  Json.writeObject [("topic", Json.writeString e.topic), ("properties", e.properties.writeJson)]

def toText (e : Event) : String := String.ofList e.writeJson

end Event
end EdgeAlert
