import EdgeAlert.Json.Reader
import EdgeAlert.Json.Writer

/-!
# Written strings

Every character is written as a piece that the reader takes off again and that stands for this
character: `readPieces_write` and `stringOf?_pieces` say so of whole strings.
-/

namespace EdgeAlert.Json

def piece (c : Char) : Piece :=
  if c.toNat < 0x20 ∧ c ∉ ['\x08', '\x0c', '\n', '\r', '\t'] then .unit c.toNat else .plain c

def pieces (s : String) : List Piece := s.toList.map piece

variable {c : Char} {cs rest : List Char}

theorem hexNumber?_control : ∀ n < 0x20,
    Text.hexNumber? ['0', '0', hexDigit (n / 16), hexDigit (n % 16)] = some n := by decide

theorem readPieces_plain (quote : c ≠ '"') (backslash : c ≠ '\\') (visible : ¬ c.toNat < 0x20)
    (rest : List Char) :
    readPieces (c :: rest) = (readPieces rest).map fun read => (.plain c :: read.1, read.2) := by
  have unread : ¬ (c = '\\' ∨ c.toNat < 0x20) := by simp [backslash, visible]
  rw [readPieces.eq_5 c rest quote (fun _ _ _ _ _ start _ => backslash start)
    (fun _ _ start _ => backslash start), if_neg unread]
  cases readPieces rest <;> rfl

theorem readPieces_simple {e : Char} (simple : simpleEscape? e = some c) (rest : List Char) :
    readPieces ('\\' :: e :: rest) =
      (readPieces rest).map fun read => (.plain c :: read.1, read.2) := by
  have unicode : e ≠ 'u' := by
    rintro rfl
    cases simple
  rw [readPieces.eq_4 e rest (fun _ _ _ _ _ letter _ => unicode letter), simple]
  cases readPieces rest <;> rfl

theorem escape_cases (c : Char) :
    (∃ e, escape c = ['\\', e] ∧ simpleEscape? e = some c ∧ piece c = .plain c) ∨
      (c.toNat < 0x20 ∧ piece c = .unit c.toNat ∧
        escape c = ['\\', 'u', '0', '0', hexDigit (c.toNat / 16), hexDigit (c.toNat % 16)]) ∨
      (c ≠ '"' ∧ c ≠ '\\' ∧ ¬ c.toNat < 0x20 ∧ piece c = .plain c ∧ escape c = [c]) := by
  by_cases special : c ∈ ['"', '\\', '\x08', '\x0c', '\n', '\r', '\t']
  · simp only [List.mem_cons, List.not_mem_nil, or_false] at special
    rcases special with rfl | rfl | rfl | rfl | rfl | rfl | rfl <;> exact .inl ⟨_, rfl, rfl, rfl⟩
  · simp only [List.mem_cons, List.not_mem_nil, or_false, not_or] at special
    obtain ⟨quote, backslash, b, f, n, r, t⟩ := special
    have written : escape c = if c.toNat < 0x20 then
        ['\\', 'u', '0', '0', hexDigit (c.toNat / 16), hexDigit (c.toNat % 16)] else [c] := by
      rw [escape, if_neg quote, if_neg backslash, if_neg b, if_neg f, if_neg n, if_neg r, if_neg t]
    by_cases control : c.toNat < 0x20
    · rw [if_pos control] at written
      exact .inr (.inl ⟨control, if_pos ⟨control, by simp [b, f, n, r, t]⟩, written⟩)
    · rw [if_neg control] at written
      exact .inr (.inr ⟨quote, backslash, control, if_neg fun both => control both.1, written⟩)

theorem readPieces_escape (c : Char) (rest : List Char) :
    readPieces (escape c ++ rest) = (readPieces rest).map fun read => (piece c :: read.1, read.2) := by
  rcases escape_cases c with ⟨e, written, simple, single⟩ | ⟨control, single, written⟩ |
    ⟨quote, backslash, visible, single, written⟩
  · rw [written, single]
    exact readPieces_simple simple rest
  · have code := hexNumber?_control c.toNat control
    rw [written, single]
    simp only [List.cons_append, List.nil_append, readPieces, code]
    cases readPieces rest <;> rfl
  · rw [written, single]
    exact readPieces_plain quote backslash visible rest

theorem readPieces_flatMap (cs rest : List Char) :
    readPieces (cs.flatMap escape ++ '"' :: rest) = some (cs.map piece, rest) := by
  induction cs with
  | nil => simp [readPieces]
  | cons c cs ih =>
    rw [List.flatMap_cons, List.append_assoc, readPieces_escape, ih]
    rfl

/-- The reader takes off a written string, once its first quote is passed. -/
theorem readPieces_write (s : String) (rest : List Char) :
    writeString s ++ rest = '"' :: (s.toList.flatMap escape ++ '"' :: rest) ∧
      readPieces (s.toList.flatMap escape ++ '"' :: rest) = some (pieces s, rest) := by
  refine ⟨?_, readPieces_flatMap s.toList rest⟩
  rw [writeString, List.cons_append, List.append_assoc, List.singleton_append]

theorem decodePieces_unit {code : Nat} (low : code < 0xD800) (others : List Piece) :
    decodePieces (.unit code :: others) = (decodePieces others).map (Char.ofNat code :: ·) := by
  have leading : isLeading code = false := by
    have : ¬ 0xD800 ≤ code := by omega
    simp [isLeading, this]
  have trailing : isTrailing code = false := by
    have : ¬ 0xDC00 ≤ code := by omega
    simp [isTrailing, this]
  cases others with
  | nil => simp [decodePieces, leading, trailing]
  | cons other others => cases other <;> simp [decodePieces, leading, trailing]

theorem decodePieces_pieces (cs : List Char) : decodePieces (cs.map piece) = some cs := by
  induction cs with
  | nil => rfl
  | cons c cs ih =>
    rw [List.map_cons]
    by_cases unit : c.toNat < 0x20 ∧ c ∉ ['\x08', '\x0c', '\n', '\r', '\t']
    · rw [piece, if_pos unit, decodePieces_unit (by omega), ih, Char.ofNat_toNat]
      rfl
    · rw [piece, if_neg unit, decodePieces, ih]
      rfl

theorem stringOf?_pieces (s : String) : stringOf? (pieces s) = some s := by
  rw [stringOf?, pieces, decodePieces_pieces, Option.map_some, String.ofList_toList]

end EdgeAlert.Json
