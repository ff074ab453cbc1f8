import EdgeAlert.Regex.Bracket

/-!
# How far readers look

The readers of escapes and of brackets decide by the characters that they take: what follows can be
exchanged without changing what is read. The one that looks ahead is the reader of `\b`, which leaves
a brace to be a repetition unless a name stands in it.
-/

namespace EdgeAlert.Regex

variable {α β : Type} {spaced : Bool} {cs rest lead : List Char} {c : Char}

/-- Reading this lead gives the result, whatever comes after it. -/
def Takes (read : List Char → Option (α × List Char)) (lead : List Char) (x : α) : Prop :=
  ∀ rest, read (lead ++ rest) = some (x, rest)

/-- The reader decides by what it takes. -/
def Local (read : List Char → Option (α × List Char)) : Prop :=
  ∀ cs x rest, read cs = some (x, rest) → ∃ lead, cs = lead ++ rest ∧ Takes read lead x

namespace Local

theorem pure (x : α) : Local fun cs => some (x, cs) :=
  fun cs _ _ h => ⟨[], by simp_all, fun rest => by simp_all⟩

theorem fail : Local fun _ => (none : Option (α × List Char)) := by
  intro cs x rest h
  simp at h

theorem congr {read other : List Char → Option (α × List Char)} (reads : Local read)
    (same : ∀ cs, other cs = read cs) : Local other := by
  rwa [funext same]

theorem bind {read : List Char → Option (α × List Char)} {next : α → List Char → Option (β × List Char)}
    (reads : Local read) (nexts : ∀ x, Local (next x)) :
    Local fun cs => (read cs).bind fun p => next p.1 p.2 := by
  intro cs y rest h
  obtain ⟨⟨x, middle⟩, first, second⟩ := Option.bind_eq_some_iff.mp h
  obtain ⟨lead, rfl, takes⟩ := reads cs x middle first
  obtain ⟨more, rfl, takesMore⟩ := nexts x middle y rest second
  refine ⟨lead ++ more, by simp, fun rest => ?_⟩
  simp only [List.append_assoc, takes (more ++ rest), Option.bind_some, takesMore rest]

theorem given {γ : Type} (value : Option γ) {next : γ → List Char → Option (β × List Char)}
    (nexts : ∀ x, Local (next x)) : Local fun cs => value.bind fun x => next x cs := by
  cases value with
  | none => exact fail
  | some x => exact nexts x

theorem map {read : List Char → Option (α × List Char)} (reads : Local read) (f : α → β) :
    Local fun cs => (read cs).map fun p => (f p.1, p.2) := by
  have both := reads.bind fun x => Local.pure (f x)
  simp only [Option.map_eq_bind]
  exact both

theorem cons {read : List Char → Option (α × List Char)} (needs : read [] = none)
    (each : ∀ c, Local fun rest => read (c :: rest)) : Local read := by
  intro cs x rest h
  cases cs with
  | nil => simp [needs] at h
  | cons c cs =>
    obtain ⟨lead, rfl, takes⟩ := each c cs x rest h
    exact ⟨c :: lead, rfl, takes⟩

theorem after_head {read : List Char → Option (α × List Char)} (reads : Local read) (needs : read [] = none)
    (c : Char) : Local fun rest => read (c :: rest) := by
  intro cs x rest h
  obtain ⟨lead, split, takes⟩ := reads (c :: cs) x rest h
  cases lead with
  | nil =>
    have := takes []
    simp [needs] at this
  | cons d lead =>
    obtain ⟨rfl, rfl⟩ := List.cons.inj split
    exact ⟨lead, rfl, takes⟩

theorem braced {inside bare : List Char → Option (α × List Char)} (insides : Local inside) (bares : Local bare)
    (needs : bare [] = none) : Local fun cs => match cs with
      | '{' :: rest => inside rest
      | rest => bare rest := by
  refine cons needs fun c => ?_
  by_cases brace : c = '{'
  · subst brace
    exact insides
  · refine (bares.after_head needs c).congr fun rest => ?_
    split <;> simp_all

end Local

theorem takeWhile_ended {p : Char → Bool} (ends : cs.drop (cs.takeWhile p).length = c :: rest) :
    cs = cs.takeWhile p ++ c :: rest ∧ ∀ rest, (cs.takeWhile p ++ c :: rest).takeWhile p = cs.takeWhile p := by
  have split : cs.takeWhile p ++ c :: rest = cs := by
    rw [← ends]
    exact List.prefix_iff_eq_append.mp (List.takeWhile_prefix p)
  have dropped : cs.dropWhile p = c :: rest :=
    List.append_cancel_left (List.takeWhile_append_dropWhile.trans split.symm)
  have stop : p c = false := by
    have := List.head?_dropWhile_not p cs
    simpa [dropped] using this
  refine ⟨split.symm, fun rest => ?_⟩
  rw [List.takeWhile_append_of_pos fun d member => List.all_eq_true.mp List.all_takeWhile d member]
  simp [stop]

/-! ### What does not count -/

/-- A character that blanks and comments do not swallow. -/
def Counts (spaced : Bool) (c : Char) : Prop := spaced = true → Text.isBlank c = false ∧ c ≠ '#'

theorem skip_counting (counts : Counts spaced c) (rest : List Char) : skip spaced (c :: rest) = c :: rest := by
  cases spaced with
  | false => rfl
  | true =>
    obtain ⟨dark, plain⟩ := counts rfl
    simp [skip, skipBlanks, dark, plain]

/-- What is passed over is passed over before any text, unless it ends in a comment. -/
theorem skipBlanks_cases (inComment : Bool) (cs : List Char) :
    (∃ lead, cs = lead ++ skipBlanks inComment cs ∧
      ∀ rest, skipBlanks inComment (lead ++ rest) = skipBlanks false rest) ∨
    (skipBlanks inComment cs = [] ∧ (inComment = true ∨ '#' ∈ cs)) := by
  -- A step that passes over one character goes on to the same two cases for the rest.
  have further : ∀ {c : Char} {cs : List Char} {before after : Bool},
      (∀ rest, skipBlanks before (c :: rest) = skipBlanks after rest) →
      (after = true → before = true ∨ c = '#') →
      ((∃ lead, cs = lead ++ skipBlanks after cs ∧
          ∀ rest, skipBlanks after (lead ++ rest) = skipBlanks false rest) ∨
        (skipBlanks after cs = [] ∧ (after = true ∨ '#' ∈ cs))) →
      (∃ lead, c :: cs = lead ++ skipBlanks before (c :: cs) ∧
          ∀ rest, skipBlanks before (lead ++ rest) = skipBlanks false rest) ∨
        (skipBlanks before (c :: cs) = [] ∧ (before = true ∨ '#' ∈ c :: cs)) := by
    intro c cs before after passes enters cases
    rw [passes]
    rcases cases with ⟨lead, split, passed⟩ | ⟨none, comment⟩
    · exact .inl ⟨c :: lead, by rw [List.cons_append, ← split], fun rest => by
        rw [List.cons_append, passes, passed]⟩
    · refine .inr ⟨none, ?_⟩
      grind
  induction cs generalizing inComment with
  | nil =>
    cases inComment with
    | false => exact .inl ⟨[], rfl, fun rest => rfl⟩
    | true => exact .inr ⟨rfl, .inl rfl⟩
  | cons c cs ih =>
    cases inComment with
    | true => exact further (fun rest => by rw [skipBlanks, if_pos rfl]) (fun _ => .inl rfl) (ih (c ≠ '\n'))
    | false =>
      by_cases blank : Text.isBlank c = true
      · exact further (fun rest => by simp [skipBlanks, blank]) (by simp) (ih false)
      · by_cases mark : c = '#'
        · exact further (fun rest => by rw [skipBlanks, if_neg Bool.false_ne_true, if_neg blank, if_pos mark])
            (fun _ => .inr mark) (ih true)
        · exact .inl ⟨[], by simp [skipBlanks, blank, mark], fun rest => rfl⟩

theorem skip_cases (spaced : Bool) (cs : List Char) :
    (∃ lead, cs = lead ++ skip spaced cs ∧ ∀ rest, skip spaced (lead ++ rest) = skip spaced rest) ∨
      (skip spaced cs = [] ∧ '#' ∈ cs) := by
  cases spaced with
  | false => exact .inl ⟨[], rfl, fun rest => rfl⟩
  | true => simpa [skip] using skipBlanks_cases false cs

theorem counts_of_skipBlanks {inComment : Bool} (skipped : skipBlanks inComment cs = c :: rest) :
    Text.isBlank c = false ∧ c ≠ '#' := by
  induction cs generalizing inComment with
  | nil => simp [skipBlanks] at skipped
  | cons d ds ih =>
    unfold skipBlanks at skipped
    split at skipped
    · exact ih skipped
    · split at skipped
      · exact ih skipped
      · split at skipped
        · exact ih skipped
        · next dark plain =>
          obtain ⟨rfl, rfl⟩ := List.cons.inj skipped
          exact ⟨by simpa using dark, plain⟩

theorem counts_of_skip (skipped : skip spaced cs = c :: rest) : Counts spaced c := by
  rintro rfl
  exact counts_of_skipBlanks skipped

theorem exists_skipped (skipped : skip spaced cs = c :: rest) :
    ∃ lead, cs = lead ++ c :: rest ∧ ∀ rest, skip spaced (lead ++ c :: rest) = c :: rest := by
  rcases skip_cases spaced cs with ⟨lead, split, passes⟩ | ⟨none, -⟩
  · rw [skipped] at split
    exact ⟨lead, split, fun rest => by rw [passes, skip_counting (counts_of_skip skipped)]⟩
  · simp [skipped] at none

theorem Local.skip {read : List Char → Option (α × List Char)} (reads : Local read) (spaced : Bool)
    (needs : read [] = none) : Local fun cs => read (skip spaced cs) := by
  intro cs x rest h
  obtain ⟨lead, split, takes⟩ := reads _ x rest h
  cases lead with
  | nil =>
    have := takes []
    simp [needs] at this
  | cons c lead =>
    obtain ⟨before, rfl, skipped⟩ := exists_skipped split
    exact ⟨before ++ c :: lead, by simp, fun rest => by simp [skipped, ← takes rest]⟩

/-! ### Numbers and names in braces -/

theorem readBraced_local (spaced inComment : Bool) : Local (readBraced spaced inComment) := by
  intro cs
  induction cs generalizing inComment with
  | nil => simp [readBraced]
  | cons c cs ih =>
    -- Either the character is left out, or it ends the braces, or it belongs to what is in them.
    have omitted : ∀ after : Bool, (∀ cs, readBraced spaced inComment (c :: cs) = readBraced spaced after cs) →
        ∀ body rest, readBraced spaced inComment (c :: cs) = some (body, rest) →
          ∃ lead, c :: cs = lead ++ rest ∧ Takes (readBraced spaced inComment) lead body := by
      intro after same body rest h
      rw [same] at h
      obtain ⟨lead, rfl, takes⟩ := ih after body rest h
      exact ⟨c :: lead, rfl, fun rest => by rw [List.cons_append, same, takes rest]⟩
    cases comment : inComment with
    | true =>
      subst comment
      exact omitted (c ≠ '\n') fun cs => by rw [readBraced, if_pos rfl]
    | false =>
      subst comment
      by_cases blank : (spaced && Text.isBlank c) = true
      · exact omitted false fun cs => by rw [readBraced, if_neg Bool.false_ne_true, if_pos blank]
      by_cases mark : (spaced && decide (c = '#')) = true
      · exact omitted true fun cs => by
          rw [readBraced, if_neg Bool.false_ne_true, if_neg blank, if_pos mark]
      by_cases brace : c = '}'
      · have stop : ∀ cs, readBraced spaced false (c :: cs) = some ([], cs) := by
          intro cs
          rw [readBraced, if_neg Bool.false_ne_true, if_neg blank, if_neg mark, if_pos brace]
        intro body rest h
        obtain ⟨rfl, rfl⟩ := Prod.mk.inj (Option.some.inj ((stop cs).symm.trans h))
        exact ⟨[c], rfl, fun rest => stop rest⟩
      · have kept : ∀ cs, readBraced spaced false (c :: cs) =
            (readBraced spaced false cs).map fun p => (c :: p.1, p.2) := by
          intro cs
          rw [readBraced, if_neg Bool.false_ne_true, if_neg blank, if_neg mark, if_neg brace]
        intro body rest h
        rw [kept] at h
        obtain ⟨⟨more, rest⟩, read, same⟩ := Option.map_eq_some_iff.mp h
        obtain ⟨rfl, rfl⟩ := Prod.mk.inj same
        obtain ⟨lead, rfl, takes⟩ := ih false more rest read
        exact ⟨c :: lead, rfl, fun rest => by rw [List.cons_append, kept, takes rest]; rfl⟩

theorem readBraced_of_skipBlanks {inComment : Bool} (nothing : skipBlanks inComment cs = []) :
    readBraced true inComment cs = none := by
  induction cs generalizing inComment with
  | nil => rfl
  | cons c cs ih =>
    unfold skipBlanks at nothing
    unfold readBraced
    split at nothing
    · next comment => simp only [comment, if_true, ih nothing]
    · next outside =>
      split at nothing
      · next blank => simp [outside, blank, ih nothing]
      · next dark =>
        split at nothing
        · next mark => simp_all
        · simp at nothing

theorem skip_ne_nil_of_takes {body : List Char} (takes : Takes (readBraced spaced false) lead body) :
    skip spaced lead ≠ [] := by
  intro nothing
  have read := takes []
  rw [List.append_nil] at read
  cases spaced with
  | false =>
    obtain rfl : lead = [] := nothing
    simp [readBraced] at read
  | true => simp [readBraced_of_skipBlanks nothing] at read

theorem takeCounted_local (spaced : Bool) (n : Nat) : Local (takeCounted spaced n) := by
  induction n with
  | zero =>
    intro cs body rest h
    obtain ⟨rfl, rfl⟩ := Prod.mk.inj (Option.some.inj h)
    exact ⟨[], rfl, fun rest => rfl⟩
  | succ n ih =>
    intro cs body rest h
    unfold takeCounted at h
    split at h
    · simp at h
    · next c cs skipped =>
      obtain ⟨⟨more, rest⟩, read, same⟩ := Option.map_eq_some_iff.mp h
      obtain ⟨rfl, rfl⟩ := Prod.mk.inj same
      obtain ⟨before, rfl, passes⟩ := exists_skipped skipped
      obtain ⟨lead, rfl, takes⟩ := ih _ more rest read
      refine ⟨before ++ c :: lead, by simp, fun rest => ?_⟩
      rw [List.append_assoc, List.cons_append, takeCounted, passes]
      simp [takes rest]

theorem readCode_local (spaced : Bool) (width : Nat) : Local (readCode spaced width) := by
  have inside := (readBraced_local spaced false).bind fun body =>
    .given (Text.hexNumber? body) fun n => .given (Text.charOfCode? n) fun c =>
      .pure ({ char := c } : Literal)
  have bare := (takeCounted_local spaced width).bind fun body =>
    .given (Text.hexNumber? body) fun n => .given (Text.charOfCode? n) fun c =>
      .pure ({ char := c, isByte := width = 2 } : Literal)
  have needs : (takeCounted spaced width []).bind (fun p =>
      (Text.hexNumber? p.1).bind fun n => (Text.charOfCode? n).bind fun c =>
        some (({ char := c, isByte := width = 2 } : Literal), p.2)) = none := by
    cases width with
    | zero => rfl
    | succ width => cases spaced <;> rfl
  exact (inside.braced bare needs).skip spaced needs

theorem readProperty_local (spaced : Bool) : Local (readProperty spaced) := by
  have inside := (readBraced_local spaced false).bind fun body =>
    .given (propertySet? body) fun set => .pure set
  have bare : Local fun cs => (cs.head?.filter (· ≠ '\\')).bind fun c =>
      (Unicode.named? [c]).bind fun set => some (set, cs.tail) := by
    refine .cons rfl fun c => ?_
    by_cases mark : c = '\\'
    · subst mark
      exact .fail
    · refine (Local.given (Unicode.named? [c]) fun set => .pure set).congr fun rest => ?_
      simp [Option.filter, mark]
  refine ((inside.braced bare rfl).skip spaced rfl).congr fun cs => ?_
  unfold readProperty
  split <;> simp_all [Option.filter]

/-! ### Escapes -/

theorem readBoundary_named {r more : List Char} (skipped : skip spaced r = c :: more)
    (named : isEdgeLetter c = true) : readBoundary spaced ('{' :: r) =
      (readBraced spaced false (c :: more)).bind fun p => (wordEdge? (String.ofList p.1)).bind fun e =>
        some (e, p.2) := by
  simp only [readBoundary, skipped, named, if_true]
  rfl

theorem readBoundary_cases {e : WordEdge} (reads : readBoundary spaced cs = some (e, rest)) :
    (∃ lead, cs = lead ++ rest ∧ Takes (readBoundary spaced) lead e) ∨
      (e = .boundary ∧ cs = rest ∧
        ∀ r, rest = '{' :: r → ∃ c more, skip spaced r = c :: more ∧ isEdgeLetter c = false) := by
  unfold readBoundary at reads
  split at reads
  · next r =>
    split at reads
    · simp at reads
    · next c more skipped =>
      split at reads
      · next named =>
        left
        have both := (readBraced_local spaced false).bind fun body =>
          .given (wordEdge? (String.ofList body)) fun e => .pure e
        obtain ⟨lead, rfl, takes⟩ := both.after_head rfl c more e rest reads
        obtain ⟨before, rfl, passes⟩ := exists_skipped skipped
        refine ⟨'{' :: before ++ c :: lead, by simp, fun rest => ?_⟩
        rw [List.cons_append, List.cons_append, List.append_assoc, List.cons_append,
          readBoundary_named (passes (lead ++ rest)) named]
        exact takes rest
      · next other =>
        obtain ⟨rfl, rfl⟩ := Prod.mk.inj (Option.some.inj reads)
        refine .inr ⟨rfl, rfl, fun r' same => ?_⟩
        obtain rfl := (List.cons.inj same).2
        exact ⟨c, more, skipped, by simpa using other⟩
  · next plain =>
    obtain ⟨rfl, rfl⟩ := Prod.mk.inj (Option.some.inj reads)
    exact .inr ⟨rfl, rfl, fun r same => absurd same (plain r)⟩

/-- Away from the word boundary, which looks for a name in braces, an escape is decided by what it
takes. -/
theorem readEscape_local {a : Atom} (reads : readEscape spaced cs = some (a, rest)) :
    (∃ lead, cs = lead ++ rest ∧ lead ≠ [] ∧ Takes (readEscape spaced) lead a) ∨
      (a = .assertion (.word .boundary) ∧ cs = 'b' :: rest ∧
        ∀ r, rest = '{' :: r → ∃ c more, skip spaced r = c :: more ∧ isEdgeLetter c = false) := by
  have led : ∀ {β : Type} {read : List Char → Option (β × List Char)} (letter : Char) (f : β → Atom),
      Local read → (∀ rest, readEscape spaced (letter :: rest) = (read rest).map fun p => (f p.1, p.2)) →
      ∀ cs, readEscape spaced (letter :: cs) = some (a, rest) →
        ∃ lead, letter :: cs = lead ++ rest ∧ lead ≠ [] ∧ Takes (readEscape spaced) lead a := by
    intro β read letter f reads same cs h
    rw [same] at h
    obtain ⟨lead, rfl, takes⟩ := reads.map f cs a rest h
    refine ⟨letter :: lead, rfl, by simp, fun rest => ?_⟩
    rw [List.cons_append, same]
    exact takes rest
  unfold readEscape at reads
  split at reads
  · simp at reads
  · next cs => exact .inl (led 'x' .literal (readCode_local spaced 2) (fun _ => rfl) cs reads)
  · next cs => exact .inl (led 'u' .literal (readCode_local spaced 4) (fun _ => rfl) cs reads)
  · next cs => exact .inl (led 'U' .literal (readCode_local spaced 8) (fun _ => rfl) cs reads)
  · next cs =>
    exact .inl (led 'p' (fun set => .named (.property set) false) (readProperty_local spaced) (fun _ => rfl) cs reads)
  · next cs =>
    exact .inl (led 'P' (fun set => .named (.property set) true) (readProperty_local spaced) (fun _ => rfl) cs reads)
  · next cs =>
    obtain ⟨⟨e, rest⟩, read, same⟩ := Option.map_eq_some_iff.mp reads
    obtain ⟨rfl, rfl⟩ := Prod.mk.inj same
    rcases readBoundary_cases read with ⟨lead, rfl, takes⟩ | ⟨rfl, rfl, unnamed⟩
    · refine .inl ⟨'b' :: lead, rfl, by simp, fun rest => ?_⟩
      show (readBoundary spaced (lead ++ rest)).map _ = _
      rw [takes rest]
      rfl
    · exact .inr ⟨rfl, rfl, unnamed⟩
  · next c cs _ _ _ _ _ _ =>
    left
    have here : ∀ {b : Atom}, some (b, cs) = some (a, rest) →
        (∀ rest, readEscape spaced (c :: rest) = some (b, rest)) →
        ∃ lead, c :: cs = lead ++ rest ∧ lead ≠ [] ∧ Takes (readEscape spaced) lead a := by
      intro b same takes
      obtain ⟨rfl, rfl⟩ := Prod.mk.inj (Option.some.inj same)
      exact ⟨[c], rfl, by simp, takes⟩
    repeat' split at reads
    · exact here reads fun rest => by simp [readEscape, *]
    · exact here reads fun rest => by simp [readEscape, *]
    · exact here reads fun rest => by simp [readEscape, *]
    · exact here reads fun rest => by simp [readEscape, *]
    · simp at reads

end EdgeAlert.Regex
