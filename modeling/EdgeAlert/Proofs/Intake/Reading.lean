import EdgeAlert.Intake
import EdgeAlert.Proofs.Checker.Run

/-!
# What an intake does

An intake is a run of the checker on the events that its lines hold, as far as the lines are UTF-8.
`run_spec` says so, and that the counts are a tally of the lines and of the alerts of the run.
-/

namespace EdgeAlert.Intake

def Line.event? (text : String) : Option Event :=
  match Line.read text with
  | .event e => some e
  | .passedOver | .unreadable => none

/-- What a line holds is what it is read as. -/
theorem Line.of_read_eq_event {text : String} {event : Event} (held : Line.read text = .event event) :
    Event.read (String.ofList (Text.trim text.toList)) = some event ∧ isCollected event.topic = true := by
  unfold Line.read at held
  dsimp only at held
  split at held
  · cases held
  · split at held
    · cases held
    · rename_i found
      split at held
      · rename_i collected
        obtain rfl := Line.event.inj held
        exact ⟨found, collected⟩
      · cases held

def handed (texts : List String) : List Event := texts.filterMap Line.event?

def readable : List (List UInt8) → List String
  | [] => []
  | bytes :: rest => match Text.ofUtf8? bytes with
    | some text => text :: readable rest
    | none => []

def tally (texts : List String) (alerts : List Alert) : IntakeCounts where
  lines := texts.length
  events := (handed texts).length
  skipped := texts.countP fun text => (Line.event? text).isNone
  alerts := alerts.length

def together (a b : IntakeCounts) : IntakeCounts where
  lines := a.lines + b.lines
  events := a.events + b.events
  skipped := a.skipped + b.skipped
  alerts := a.alerts + b.alerts

theorem handed_append (first second : List String) :
    handed (first ++ second) = handed first ++ handed second := List.filterMap_append

theorem tally_append (first second : List String) (alerts more : List Alert) :
    tally (first ++ second) (alerts ++ more) = together (tally first alerts) (tally second more) := by
  simp [tally, together, handed_append]

theorem together_assoc (a b c : IntakeCounts) :
    together (together a b) c = together a (together b c) := by
  simp [together, Nat.add_assoc]

theorem read_spec (p : Progress) (text : String) :
    let ran := p.checker.run ((handed [text]).map .handle)
    (p.read text).checker = ran.1 ∧ (p.read text).alerts = p.alerts ++ ran.2 ∧
      (p.read text).counts = together p.counts (tally [text] ran.2) := by
  unfold Progress.read handed
  rw [List.filterMap_cons]
  cases held : Line.read text with
  | event event =>
    have counted := Checker.handle_changes p.checker event
    simp [Line.event?, held, Checker.run, Checker.perform, together, tally, handed, counted]
  | passedOver => simp [Line.event?, held, Checker.run, together, tally, handed]
  | unreadable => simp [Line.event?, held, Checker.run, together, tally, handed]

theorem foldl_read_spec (p : Progress) (texts : List String) :
    let done := texts.foldl Progress.read p
    let ran := p.checker.run ((handed texts).map .handle)
    done.checker = ran.1 ∧ done.alerts = p.alerts ++ ran.2 ∧
      done.counts = together p.counts (tally texts ran.2) := by
  induction texts generalizing p with
  | nil => simp [handed, Checker.run, together, tally]
  | cons text rest ih =>
    obtain ⟨checker, alerts, counts⟩ := read_spec p text
    obtain ⟨checker', alerts', counts'⟩ := ih (p.read text)
    have split : text :: rest = [text] ++ rest := rfl
    dsimp only
    rw [List.foldl_cons, checker', alerts', counts', checker, alerts, counts, split, handed_append,
      List.map_append, Checker.run_append, tally_append, together_assoc, List.append_assoc]
    exact ⟨rfl, rfl, rfl⟩

/-- An intake goes through the lines before the first that is not UTF-8, and is completed if there is
no such line. -/
theorem readLines_spec (p : Progress) (lines : List (List UInt8)) :
    let done := (readable lines).foldl Progress.read p
    let result := readLines p lines
    result.progress.checker = done.checker ∧ result.progress.alerts = done.alerts ∧
      result.progress.counts = done.counts ∧
      result.completed = lines.all fun bytes => (Text.ofUtf8? bytes).isSome := by
  induction lines generalizing p with
  | nil => exact ⟨rfl, rfl, rfl, rfl⟩
  | cons bytes rest ih =>
    rw [readable, readLines, List.all_cons]
    cases Text.ofUtf8? bytes with
    | none => exact ⟨rfl, rfl, rfl, rfl⟩
    | some text => exact ih (p.read text)

theorem readLines_from (p : Progress) (lines : List (List UInt8)) :
    let fresh := readLines { checker := p.checker, counts := p.counts } lines
    (readLines p lines).progress.checker = fresh.progress.checker ∧
      (readLines p lines).progress.alerts = p.alerts ++ fresh.progress.alerts ∧
      (readLines p lines).progress.counts = fresh.progress.counts ∧
      (readLines p lines).completed = fresh.completed := by
  obtain ⟨checker, alerts, counts, completed⟩ := readLines_spec p lines
  obtain ⟨checker', alerts', counts', completed'⟩ :=
    readLines_spec { checker := p.checker, counts := p.counts } lines
  obtain ⟨left, posted, counted⟩ := foldl_read_spec p (readable lines)
  obtain ⟨left', posted', counted'⟩ :=
    foldl_read_spec { checker := p.checker, counts := p.counts } (readable lines)
  refine ⟨?_, ?_, ?_, completed.trans completed'.symm⟩
  · rw [checker, checker', left, left']
  · rw [alerts, alerts', posted, posted', List.nil_append]
  · rw [counts, counts', counted, counted']

/-- An intake is a run of the checker, and its counts are a tally. -/
theorem run_spec (checker : Checker) (bytes : List UInt8) :
    let texts := readable (inputLines bytes)
    let ran := checker.run ((handed texts).map .handle)
    let result := run checker bytes
    result.progress.checker = ran.1 ∧ result.progress.alerts = ran.2 ∧
      result.progress.counts = tally texts ran.2 ∧
      result.completed = (inputLines bytes).all fun line => (Text.ofUtf8? line).isSome := by
  obtain ⟨checker', alerts', counts', completed⟩ := readLines_spec { checker } (inputLines bytes)
  obtain ⟨checker'', alerts'', counts''⟩ := foldl_read_spec { checker } (readable (inputLines bytes))
  refine ⟨checker'.trans checker'', alerts'.trans alerts'', (counts'.trans counts'').trans ?_, completed⟩
  simp [together]

/-! ### Telling intakes apart -/

/-- The two intakes cannot be told apart. -/
structure Alike (a b : Result) : Prop where
  alerts : a.progress.alerts = b.progress.alerts
  counts : a.progress.counts = b.progress.counts
  completed : a.completed = b.completed
  store : a.progress.checker.store = b.progress.checker.store

/-- Intakes of the same input under the same rules are alike only if they start from the same store. -/
theorem alike_iff {a b : Checker} (rules : a.rules = b.rules) (bytes : List UInt8) :
    Alike (run a bytes) (run b bytes) ↔ a.store = b.store := by
  obtain ⟨checker, alerts, counts, completed⟩ := run_spec a bytes
  obtain ⟨checker', alerts', counts', completed'⟩ := run_spec b bytes
  rw [← Checker.run_store_inj rules ((handed (readable (inputLines bytes))).map .handle)]
  constructor
  · intro alike
    have posted := alike.alerts
    have left := alike.store
    rw [alerts, alerts'] at posted
    rw [checker, checker'] at left
    exact ⟨posted, left⟩
  · rintro ⟨posted, left⟩
    refine ⟨?_, ?_, completed.trans completed'.symm, ?_⟩
    · rw [alerts, alerts', posted]
    · rw [counts, counts', posted]
    · rw [checker, checker', left]

theorem run_rules (checker : Checker) (bytes : List UInt8) :
    (run checker bytes).progress.checker.rules = checker.rules := by
  rw [(run_spec checker bytes).1]
  exact Checker.run_handle_rules checker _

end EdgeAlert.Intake
