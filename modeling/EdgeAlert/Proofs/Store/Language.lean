import EdgeAlert.Proofs.Store.Files

/-!
# What a snapshot says

Any text can be loaded as a snapshot, whoever wrote it. `snapshot_language`: a line that is a severity, a
colon and an identity makes the identity alerting, and no other line counts. So the lines are a set: their
order and number do not matter, and a text that goes on after a line end adds what its rest says.
-/

namespace EdgeAlert

namespace Store

variable {content first second : String} {line : List Char} {x : String} {s : Severity}

/-- The texts have the same entries, in whatever order and number. -/
def SameEntries (content other : String) : Prop :=
  ∀ s x, row s x ∈ Text.lines '\n' '\r' other.toList ↔ row s x ∈ Text.lines '\n' '\r' content.toList

theorem ofSnapshot_congr {other : String} (same : SameEntries content other) :
    (ofSnapshot other).value = (ofSnapshot content).value := by
  refine ext_alerting fun s => IdentitySet.ext_mem fun x => ?_
  rw [mem_ofSnapshot, mem_ofSnapshot, same s x]

theorem mem_append_of_ended (ended : Text.Ended '\n' first.toList) :
    x ∈ (ofSnapshot (first ++ second)).value.alerting s ↔
      x ∈ (ofSnapshot first).value.alerting s ∨ x ∈ (ofSnapshot second).value.alerting s := by
  rw [mem_ofSnapshot, mem_ofSnapshot, mem_ofSnapshot, String.toList_append, Text.lines_append_of_ended ended,
    List.mem_append]

/-! ### Complete lines -/

def endLines (pieces : List (List Char)) : String :=
  String.ofList (pieces.flatMap fun piece => piece ++ ['\n'])

theorem endLines_ended (pieces : List (List Char)) : Text.Ended '\n' (endLines pieces).toList := by
  rw [endLines, String.toList_ofList]
  rcases List.eq_nil_or_concat pieces with rfl | ⟨front, last, rfl⟩
  · exact .inl rfl
  · right
    rw [List.concat_eq_append, List.flatMap_append, List.flatMap_singleton, ← List.append_assoc,
      List.getLast?_concat]

theorem mem_endLines_append {pieces : List (List Char)} (unbroken : ∀ piece ∈ pieces, '\n' ∉ piece) :
    x ∈ (ofSnapshot (endLines pieces ++ second)).value.alerting s ↔
      (∃ piece ∈ pieces, Text.dropReturn '\r' piece = row s x) ∨
        x ∈ (ofSnapshot second).value.alerting s := by
  rw [mem_append_of_ended (endLines_ended pieces), mem_ofSnapshot, endLines, String.toList_ofList,
    Text.lines_flatMap unbroken, List.mem_map]

theorem endLines_congr {pieces others : List (List Char)} (unbroken : ∀ piece ∈ pieces, '\n' ∉ piece)
    (same : ∀ piece, piece ∈ others ↔ piece ∈ pieces) :
    (ofSnapshot (endLines others ++ second)).value = (ofSnapshot (endLines pieces ++ second)).value := by
  refine ext_alerting fun s => IdentitySet.ext_mem fun x => ?_
  rw [mem_endLines_append unbroken, mem_endLines_append fun piece member => unbroken piece ((same piece).mp member)]
  simp only [same]

end Store

namespace Host

open Store

/-- An identity is alerting at a severity exactly if a line of the text is the severity, a colon and the
identity. -/
theorem snapshot_language {World : Type} {host : Host (StateM World)} {path : String} {world : World}
    {content : String} (held : ((host.readFile path).run world).1 = .ok content.toUTF8.toList) :
    ((host.loadStore path).run world).1 = .ok (ofSnapshot content) ∧
    (∀ found, Text.Lined '\n' '\r' content.toList found → ∀ s x,
      (x ∈ (ofSnapshot content).value.alerting s ↔ s.name.toList ++ ':' :: x.toList ∈ found)) ∧
    (∀ other, SameEntries content other → (ofSnapshot other).value = (ofSnapshot content).value) ∧
    (∀ pieces others rest, content = endLines pieces ++ rest → (∀ piece ∈ pieces, '\n' ∉ piece) →
      (∀ piece, piece ∈ others ↔ piece ∈ pieces) →
      (ofSnapshot (endLines others ++ rest)).value = (ofSnapshot content).value) ∧
    ∀ first second, content = first ++ second → Text.Ended '\n' first.toList → ∀ s x,
      (x ∈ (ofSnapshot content).value.alerting s ↔
        x ∈ (ofSnapshot first).value.alerting s ∨ x ∈ (ofSnapshot second).value.alerting s) := by
  refine ⟨loadStore_text held, fun found lined s x => ?_, fun other => ofSnapshot_congr, ?_, ?_⟩
  · rw [mem_ofSnapshot, ← (Text.lined_iff (by decide)).mp lined, row]
  · rintro pieces others rest rfl unbroken same
    exact endLines_congr unbroken same
  · rintro first second rfl ended s x
    exact mem_append_of_ended ended

def mixedSnapshot : String :=
  "error:cpu-usage-A\r\n \t\nwarn:jmx-url-http://host:8080\nError:B\n error:B\ncritical:B\nerror:\nerror:cpu-usage-A"

def snapshotMachine : Machine where
  files := .ofList [("alerts", mixedSnapshot.toUTF8.toList)]

theorem mixed_snapshot_read :
    ((Machine.host.readFile "alerts").run snapshotMachine).1 = .ok mixedSnapshot.toUTF8.toList ∧
      ((Machine.host.loadStore "alerts").run snapshotMachine).1 = .ok (ofSnapshot mixedSnapshot) ∧
      (ofSnapshot mixedSnapshot).value.list .error = ["", "cpu-usage-A"] ∧
      (ofSnapshot mixedSnapshot).value.list .warn = ["jmx-url-http://host:8080"] ∧
      "B" ∉ (ofSnapshot mixedSnapshot).value.alerting .error := by
  have held : ((Machine.host.readFile "alerts").run snapshotMachine).1 = .ok mixedSnapshot.toUTF8.toList := by
    decide +kernel
  obtain ⟨loaded, language, -⟩ := snapshot_language held
  refine ⟨held, loaded, by decide +kernel, by decide +kernel, ?_⟩
  rw [language _ (Text.lined_lines _)]
  decide +kernel

end Host
end EdgeAlert
