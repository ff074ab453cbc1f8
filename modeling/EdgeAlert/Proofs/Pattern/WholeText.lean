import EdgeAlert.Proofs.Pattern.Listing
import EdgeAlert.Proofs.Regex.Anchoring

/-!
# Matching whole texts

The body of a textual pattern is put as text between anchors, so what it means there depends on where
the reader takes the group around it to end. Unless the body closes that group itself or hides its end
in a comment, the pattern asks for exactly the texts that the body covers from end to end, and a body
that is no expression is refused.
-/

namespace EdgeAlert.TextualPattern

open Regex Value

variable {body : String} {r : Regex}

def Refused (body : String) : Prop :=
  parse ("match:" ++ body) = .error (.invalidRegex body) ∧
    parse ("notmatch:" ++ body) = .error (.invalidRegex body)

/-- Both forms of the pattern are read, the one for the texts that the expression covers and the other
for the rest. -/
def Covers (body : String) (r : Regex) : Prop :=
  ∃ m n, parse ("match:" ++ body) = .ok m ∧ parse ("notmatch:" ++ body) = .ok n ∧ ∀ s : String,
    (m.check s = true ↔ r.expr.Spans s.toList 0 s.toList.length) ∧
    (n.check s = true ↔ ¬r.expr.Spans s.toList 0 s.toList.length)

theorem refused_of_unread (unread : Regex.read? (anchored body.toList) = none) : Refused body := by
  have read : readBody body.toList = .error (.invalidRegex body) := by
    rw [readBody, unread, String.ofList_toList]
  exact ⟨by rw [parse_matching, read]; rfl, by rw [parse_notMatching, read]; rfl⟩

theorem covers_of_read {whole : Regex} (read : Regex.read? (anchored body.toList) = some whole)
    (same : whole.expr = r.expr.whole) : Covers body r := by
  have good : readBody body.toList = .ok whole := by
    rw [readBody, read]
  have found : ∀ s : List Char, whole.isMatch s = true ↔ r.expr.Spans s 0 s.length := by
    intro s
    rw [isMatch_iff read, same]
    simp only [Expr.spans_whole]
    grind
  refine ⟨.matching whole, .notMatching whole, by rw [parse_matching, good]; rfl,
    by rw [parse_notMatching, good]; rfl, fun s => ⟨found s.toList, ?_⟩⟩
  rw [check, ← found s.toList]
  simp

/-- A body is matched against whole texts as long as it is an expression that leaves the group around it to
the parenthesis behind it. -/
theorem whole_text_matching (body : String) :
    (∀ r, Regex.read? body.toList = some r →
      (closes body.toList = true ∧ hasRoom body.toList r = true → Covers body r) ∧
      (¬(closes body.toList = true ∧ hasRoom body.toList r = true) → Refused body) ∧
      ('#' ∉ body.toList → closes body.toList = true)) ∧
    (Regex.read? body.toList = none → unbalanced body.toList = false → Refused body) ∧
    (')' ∉ body.toList → unbalanced body.toList = false) := by
  refine ⟨fun r read => ⟨?_, fun unfit => ?_, fun plain => ?_⟩, fun unread balanced => ?_, balanced_of_notMem⟩
  · rintro ⟨closed, room⟩
    have fits : r.expr.whole.fits = true := (Bool.and_eq_true_iff.mp room).2
    exact covers_of_read ((read?_anchored read ⟨r.expr.whole, fits⟩).mpr ⟨closed, room, rfl⟩) rfl
  · apply refused_of_unread
    apply Option.eq_none_iff_forall_ne_some.mpr
    intro whole found
    obtain ⟨closed, room, -⟩ := (read?_anchored read whole).mp found
    exact unfit ⟨closed, room⟩
  · obtain ⟨t, after, tree, -⟩ := read?_eq_some_iff.mp read
    exact closes_of_uncommented (Syntax.read?_eq_some_iff.mp tree).1 plain
  · exact refused_of_unread (read?_anchored_none unread balanced)

theorem either_word_whole : ∃ r, Regex.read? "ab|cd".toList = some r ∧
    (closes "ab|cd".toList = true ∧ hasRoom "ab|cd".toList r = true) ∧ Covers "ab|cd" r ∧
    r.expr.Spans "cd".toList 0 2 ∧
    Regex.read? "a(b".toList = none ∧ unbalanced "a(b".toList = false ∧ Refused "a(b" := by
  let word (a b : Char) : Expr := .seq (.chars (.single a)) (.chars (.single b))
  let words : Regex := ⟨.alt (word 'a' 'b') (word 'c' 'd'), by decide +kernel⟩
  have read : Regex.read? "ab|cd".toList = some words := rfl
  have room : hasRoom "ab|cd".toList words = true := by decide +kernel
  have unread : Regex.read? "a(b".toList = none := rfl
  obtain ⟨valid, -, -⟩ := whole_text_matching "ab|cd"
  obtain ⟨covers, -, uncommented⟩ := valid words read
  obtain ⟨-, refused, unclosed⟩ := whole_text_matching "a(b"
  have closed := uncommented (by decide)
  have balanced := unclosed (by decide)
  refine ⟨words, read, ⟨closed, room⟩, covers ⟨closed, room⟩, ?_, unread, balanced, refused unread balanced⟩
  simp [words, word]
  decide

/-- A body that closes the group itself matches parts of texts, and one that ends in a comment is refused. -/
theorem group_closed_early :
    Regex.read? "a)|(b".toList = none ∧
    (parse "match:a)|(b").toOption.map (check "axyz") = some true ∧
    (Regex.read? "(?x)a # c".toList).isSome = true ∧ Refused "(?x)a # c" := by
  have unread : Regex.read? (anchored "(?x)a # c".toList) = none := rfl
  exact ⟨rfl, by decide +kernel, by decide +kernel, refused_of_unread unread⟩

end EdgeAlert.TextualPattern
