import EdgeAlert.Alert
import EdgeAlert.Event.Codec
import EdgeAlert.Time.Timestamp

/-!
# Stamped alerts

An alert on its way to the handlers, with the id and the time it was given. It has two JSON forms:
the record of all its fields, which can be read back, and the flat line for a downstream appender.
-/

namespace EdgeAlert

structure StampedAlert extends Alert where
  id : String
  timestamp : Timestamp
  deriving DecidableEq

namespace StampedAlert

def writeJson (a : StampedAlert) : List Char :=
  Json.writeObject
    [("id", Json.writeString a.id),
      ("topic", Json.writeString a.topic),
      (Alert.levelField, Json.writeString a.level.name),
      (Alert.attributeField, Json.writeString a.identity),
      (Alert.patternField, Json.writeString a.pattern),
      (Alert.backToNormalField, Json.write (.bool a.backToNormal)),
      ("properties", a.properties.writeJson),
      ("timestamp", Json.writeString a.timestamp.toZuluText)]

def toText (a : StampedAlert) : String := String.ofList a.writeJson

/-- The flat JSON value of an alert: its flattened properties under its id, topic and time. -/
def toJson (a : StampedAlert) : Json :=
  .object
    [("id", .string a.id), ("topic", .string a.topic), ("timestamp", .string a.timestamp.toText),
      ("properties", a.flatten.properties.toJson)]

def toLine (a : StampedAlert) : String := a.toJson.toText

def fieldNames : List String :=
  ["id", "topic", Alert.levelField, Alert.attributeField, Alert.patternField,
    Alert.backToNormalField, "properties", "timestamp"]

/-- The severity that a tree spells: its name, or an object that gives the name no value. -/
def readSeverity : Json.Syntax → Option Severity
  | .string pieces => (Json.stringOf? pieces).bind Severity.ofName?
  | .object [(pieces, .null)] => (Json.stringOf? pieces).bind Severity.ofName?
  | _ => none

def ofSyntax? (tree : Json.Syntax) : Option StampedAlert :=
  match tree.fields? fieldNames with
  | some [some id, some topic, some level, some identity, some pattern, some backToNormal,
      some properties, some timestamp] => do
    return {
      id := ← id.string?
      topic := ← topic.string?
      level := ← readSeverity level
      identity := ← identity.string?
      pattern := ← pattern.string?
      backToNormal := ← backToNormal.bool?
      properties := ← Properties.ofSyntax? (Json.Syntax.depthLimit - 1) properties
      timestamp := ← (← timestamp.string?) |> Timestamp.read }
  | _ => none

def read (text : String) : Option StampedAlert := (Json.readSyntax text).bind ofSyntax?

end StampedAlert
end EdgeAlert
