import EdgeAlert.Event.Codec
import EdgeAlert.Text.Blank
import EdgeAlert.Text.Fields

/-!
# Lines of collected events

One line of input is one event in JSON. Blank lines and events on a topic of their own are passed
over; any other line that is no event is unreadable.
-/

namespace EdgeAlert.Intake

def topicLead : String := "decanter/collect/"

def isCollected (topic : String) : Bool := (Text.after? topicLead.toList topic.toList).isSome

inductive Line where
  | event (event : Event)
  | passedOver
  | unreadable
  deriving DecidableEq

/-- What a text holds; white space around it does not count. -/
def Line.read (text : String) : Line :=
  let cs := Text.trim text.toList
  if cs = [] then .passedOver
  else match Event.read (String.ofList cs) with
    | none => .unreadable
    | some e => if isCollected e.topic then .event e else .passedOver

end EdgeAlert.Intake
