import EdgeAlert.Delivery.Handlers
import EdgeAlert.Proofs.Event.Canonical
import EdgeAlert.Proofs.Intake.Accounting
import EdgeAlert.Proofs.Json.Visible

/-!
# Alerts as input

The lines that are written for alerts could be given to an intake. Each of them is an event on the
topic of its severity, which no collector uses, so that the intake passes over all of them:
`alerts_passedOver`. The events that the alerts are about have been read from lines themselves, so
their values nest no deeper than the reader goes.
-/

namespace EdgeAlert

/-! ### Flattened alerts -/

theorem Alert.fromJson_flatten {a : Alert} {depth : Nat} (read : a.properties.FromJson depth) :
    a.flatten.properties.FromJson depth := by
  have text : ∀ s, Value.FromJson depth (.text s) := fun s => ⟨.string s, .string s, rfl⟩
  have none : Properties.FromJson depth .empty := fun _ member => absurd member List.not_mem_nil
  refine Properties.FromJson.insertAll (none.insertAll fun entry field => ?_) read
  simp only [fields, List.mem_cons, List.not_mem_nil, or_false] at field
  rcases field with rfl | rfl | rfl | rfl
  · exact text _
  · exact text _
  · exact text _
  · exact ⟨.bool a.backToNormal, .bool _, rfl⟩

namespace StampedAlert

variable {a : StampedAlert}

/-! ### The line of an alert -/

theorem toLine_toList (a : StampedAlert) : ∃ inside, a.toLine.toList = '{' :: (inside ++ ['}']) := by
  obtain ⟨inside, whole⟩ : ∃ inside, a.toJson.write = '{' :: (inside ++ ['}']) :=
    ⟨_, congrArg ('{' :: ·) (Json.flatten_members _).symm⟩
  exact ⟨inside, by rw [toLine, Json.toText, String.toList_ofList, whole]⟩

/-- Read as an event, the line of an alert is the flattened alert, but for what reading makes of the
values. -/
theorem read_toLine (read : a.properties.FromJson Event.valueDepth) :
    Event.read a.toLine = some { topic := a.topic, properties := a.flatten.properties.readBack } := by
  refine Event.read_object (Alert.fromJson_flatten read) ?_
  rw [Json.tree, Json.Syntax.fields?]
  simp only [Json.slots?_memberTrees]
  rfl

/-- The bytes of a line hold no control character, neither line feed nor return. -/
theorem toLine_visible {b : UInt8} (member : b ∈ a.toLine.toUTF8.toList) : 0x20 ≤ b.toNat := by
  rw [Text.bytes_eq, toLine, Json.toText, String.toList_ofList] at member
  obtain ⟨c, written, encoded⟩ := List.mem_flatMap.mp member
  exact Text.le_of_mem_encode (by decide) (Json.write_visible _ c written) encoded

end StampedAlert

/-! ### Written alerts -/

namespace Handler

variable {σ : Type} {write : String → σ → Option σ} {contents : σ → List UInt8}

/-- The sink takes every line: it then holds what it held before, the line and a line feed. -/
def TakesLines (write : String → σ → Option σ) (contents : σ → List UInt8) : Prop :=
  ∀ line state, ∃ next, write line state = some next ∧
    contents next = contents state ++ (line.toUTF8.toList ++ [10])

/-- What becomes of a state when a handler gets some alerts one after the other. -/
def handleAll (handler : Handler σ) (alerts : List StampedAlert) (state : σ) : σ :=
  alerts.foldl (fun state alert => (handler.handle alert state).state) state

def linesOf (alerts : List StampedAlert) : List UInt8 :=
  alerts.flatMap fun alert => alert.toLine.toUTF8.toList ++ [10]

theorem linesOf_cons (alert : StampedAlert) (alerts : List StampedAlert) :
    linesOf (alert :: alerts) = alert.toLine.toUTF8.toList ++ [10] ++ linesOf alerts := List.flatMap_cons

theorem jsonLines_handleAll (takes : TakesLines write contents) (alerts : List StampedAlert) (state : σ) :
    contents (handleAll (jsonLines write) alerts state) = contents state ++ linesOf alerts := by
  induction alerts generalizing state with
  | nil => exact (List.append_nil _).symm
  | cons alert alerts ih =>
    obtain ⟨next, written, holds⟩ := takes alert.toLine state
    have step : ((jsonLines write).handle alert state).state = next := by
      simp only [jsonLines, written]
    have rest := ih next
    rw [handleAll, List.foldl_cons, step, ← handleAll, rest, holds, linesOf_cons, List.append_assoc]

end Handler

namespace Intake

open Handler

variable {checker : Checker} {calls : List Call} {alerts : List StampedAlert}

theorem newline_toLine (alert : StampedAlert) :
    (10 : UInt8) ∉ alert.toLine.toUTF8.toList ∧ alert.toLine.toUTF8.toList.getLast? ≠ some 13 := by
  refine ⟨fun feed => ?_, fun last => ?_⟩
  · exact absurd (StampedAlert.toLine_visible feed) (by decide)
  · exact absurd (StampedAlert.toLine_visible (List.mem_of_getLast? last)) (by decide)

theorem count_linesOf (alerts : List StampedAlert) : (linesOf alerts).count 10 = alerts.length := by
  induction alerts with
  | nil => rfl
  | cons alert alerts ih =>
    have line := List.count_eq_zero.mpr (newline_toLine alert).1
    rw [linesOf_cons, List.count_append, List.count_append, line, ih, List.length_cons,
      List.count_singleton_self]
    omega

theorem inputLines_linesOf (alerts : List StampedAlert) :
    inputLines (linesOf alerts) = alerts.map fun alert => alert.toLine.toUTF8.toList := by
  have whole : ∀ line ∈ alerts.map (fun alert => alert.toLine.toUTF8.toList), (10 : UInt8) ∉ line := by
    intro line member feed
    obtain ⟨alert, -, rfl⟩ := List.mem_map.mp member
    exact (newline_toLine alert).1 feed
  have plain : ∀ line ∈ alerts.map (fun alert => alert.toLine.toUTF8.toList),
      Text.dropReturn 13 line = id line := by
    intro line member
    obtain ⟨alert, -, rfl⟩ := List.mem_map.mp member
    exact Text.dropReturn_of_ne (newline_toLine alert).2
  have cut : inputLines ((alerts.map fun alert => alert.toLine.toUTF8.toList).flatMap fun line =>
      line ++ [10]) = _ := Text.lines_flatMap whole
  rw [List.flatMap_map, List.map_congr_left plain, List.map_id] at cut
  exact cut

theorem isCollected_topic (s : Severity) : isCollected s.topic = false := by
  cases s <;> decide +kernel

theorem passedOver_toLine {a : StampedAlert} (topic : a.topic = a.level.topic)
    (read : a.properties.FromJson Event.valueDepth) : Line.read a.toLine = .passedOver := by
  obtain ⟨inside, whole⟩ := a.toLine_toList
  have trimmed : Text.trim a.toLine.toList = a.toLine.toList := by
    rw [whole]
    exact Text.trim_of_ends (by decide) (by decide) inside
  have nonempty : a.toLine.toList ≠ [] := by
    rw [whole]
    exact List.cons_ne_nil _ _
  unfold Line.read
  simp only [trimmed, if_neg nonempty, String.ofList_toList, StampedAlert.read_toLine read, topic,
    isCollected_topic]
  rfl

theorem readable_texts (texts : List String) :
    readable (texts.map fun text => text.toUTF8.toList) = texts := by
  induction texts with
  | nil => rfl
  | cons text texts ih => rw [List.map_cons, readable, Text.ofUtf8?_toUTF8, ih]

/-- An intake of lines that are all passed over counts them and does nothing else. -/
theorem run_passedOver (checker : Checker) {bytes : List UInt8} {texts : List String}
    (lines : inputLines bytes = texts.map fun text => text.toUTF8.toList)
    (passed : ∀ text ∈ texts, Line.read text = .passedOver) :
    (run checker bytes).completed = true ∧ (run checker bytes).progress.checker = checker ∧
      (run checker bytes).progress.alerts = [] ∧
      (run checker bytes).progress.counts = { lines := texts.length, skipped := texts.length } := by
  have none : ∀ text ∈ texts, Line.event? text = none := by
    intro text member
    rw [Line.event?, passed text member]
  have nothing : handed texts = [] := List.filterMap_eq_nil_iff.mpr none
  obtain ⟨left, posted, counted, completed⟩ := run_spec checker bytes
  rw [lines, readable_texts, nothing] at left posted counted
  refine ⟨?_, left, posted, ?_⟩
  · rw [completed, lines, List.all_map, List.all_eq_true]
    intro text _
    rw [Function.comp_apply, Text.ofUtf8?_toUTF8]
    rfl
  · have all : texts.countP (fun text => (Line.event? text).isNone) = texts.length :=
      List.countP_eq_length.mpr fun text member => by rw [none text member]; rfl
    rw [counted, tally, nothing, all]
    rfl

/-- Alerts do not feed back: every intake passes over their lines. -/
theorem alerts_passedOver {σ : Type} {write : String → σ → Option σ} {contents : σ → List UInt8}
    (events : ∀ event, Call.handle event ∈ calls → ∃ text, Line.read text = .event event)
    (posted : ∀ alert ∈ alerts, alert.toAlert ∈ (checker.run calls).2)
    (takes : TakesLines write contents) (start : σ) :
    ∃ bytes, contents (handleAll (jsonLines write) alerts start) = contents start ++ bytes ∧
      inputLines bytes = alerts.map (fun alert => alert.toLine.toUTF8.toList) ∧
      bytes.count 10 = alerts.length ∧
      (∀ alert ∈ alerts, Line.read alert.toLine = .passedOver) ∧
      ∀ other : Checker,
        (run other bytes).completed = true ∧ (run other bytes).progress.checker = other ∧
          (run other bytes).progress.alerts = [] ∧
          (run other bytes).progress.counts =
            { lines := alerts.length, events := 0, skipped := alerts.length, alerts := 0 } := by
  have passed : ∀ alert ∈ alerts, Line.read alert.toLine = .passedOver := by
    intro alert member
    obtain ⟨topic, event, handled, properties⟩ := Checker.origin_of_posted (posted alert member)
    obtain ⟨text, read⟩ := events event handled
    refine passedOver_toLine topic ?_
    rw [properties]
    exact Event.fromJson_of_read (Line.of_read_eq_event read).1
  refine ⟨linesOf alerts, jsonLines_handleAll takes alerts start, inputLines_linesOf alerts,
    count_linesOf alerts, passed, fun other => ?_⟩
  have lines : inputLines (linesOf alerts) =
      (alerts.map StampedAlert.toLine).map fun text => text.toUTF8.toList := by
    rw [inputLines_linesOf, List.map_map]
    rfl
  have skipped : ∀ text ∈ alerts.map StampedAlert.toLine, Line.read text = .passedOver := by
    intro text member
    obtain ⟨alert, here, rfl⟩ := List.mem_map.mp member
    exact passed alert here
  have ran := run_passedOver other lines skipped
  rw [List.length_map] at ran
  exact ran

/-- The alert about a host whose name goes over two lines is one line, and nothing comes of it. -/
theorem odd_host_passedOver :
    let line := "\x7b\"topic\": \"decanter/collect/cpu\", \"properties\": \x7b\"type\": \"cpu\", " ++
      "\"host\": \"A\\nB\", \"topic\": \"decanter/collect/\\\"\", \"alertLevel\": \"none\", \"usage\": 95\x7d\x7d"
    let event : Event := ⟨"decanter/collect/cpu", .ofList
      [("type", .text "cpu"), ("host", .text "A\nB"), ("topic", .text "decanter/collect/\""),
        ("alertLevel", .text "none"), ("usage", .long ⟨95, by decide⟩)]⟩
    let alert : StampedAlert :=
      ⟨.about event .error "cpu-usage-A\nB" "range:[0,90]" false, "7", ⟨0, 0⟩⟩
    let sink := fun (line : String) (lines : List UInt8) => some (lines ++ (line.toUTF8.toList ++ [10]))
    Line.read line = .event event ∧
      ((⟨Checker.usageRules, {}⟩ : Checker).run [.handle event]).2 = [alert.toAlert] ∧
      ∃ bytes, handleAll (jsonLines sink) [alert] [] = bytes ∧
        inputLines bytes = [alert.toLine.toUTF8.toList] ∧ Line.read alert.toLine = .passedOver ∧
        ∀ other : Checker,
          (run other bytes).progress.checker = other ∧ (run other bytes).progress.alerts = [] := by
  intro line event alert sink
  have read : Line.read line = .event event := by decide +kernel
  have posted : ((⟨Checker.usageRules, {}⟩ : Checker).run [.handle event]).2 = [alert.toAlert] := by
    decide +kernel
  have takes : TakesLines sink id := fun line lines => ⟨_, rfl, rfl⟩
  have handled : ∀ other, Call.handle other ∈ [Call.handle event] →
      ∃ text, Line.read text = .event other := by
    intro other member
    obtain rfl := Call.handle.inj (List.mem_singleton.mp member)
    exact ⟨line, read⟩
  have all : ∀ a ∈ [alert],
      a.toAlert ∈ ((⟨Checker.usageRules, {}⟩ : Checker).run [.handle event]).2 := by
    intro a member
    rw [List.mem_singleton.mp member, posted]
    exact List.mem_singleton_self _
  obtain ⟨bytes, wrote, lines, -, passed, silent⟩ := alerts_passedOver handled all takes []
  refine ⟨read, posted, bytes, wrote, lines, passed alert (List.mem_singleton_self _), fun other => ?_⟩
  obtain ⟨-, kept, none, -⟩ := silent other
  exact ⟨kept, none⟩

end Intake
end EdgeAlert
