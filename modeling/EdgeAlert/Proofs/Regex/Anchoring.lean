import EdgeAlert.Pattern.Textual
import EdgeAlert.Proofs.Regex.Bounds

/-!
# Anchored expressions

What becomes of an expression that is put as text between `^(?:` and `)$`. If the parenthesis put after
it closes the group put before it, the result is the expression anchored at both ends of the text. A
comment at the end of the expression swallows that parenthesis, and a parenthesis of its own that closes
nothing closes the group too early.
-/

namespace EdgeAlert.Regex

variable {s body rest : List Char} {t : Syntax} {r : Regex}

/-- A parenthesis put after the text is not read as a part of it. -/
def closes (body : List Char) : Bool :=
  match readUpTo (body.length + 2) false [] [] (body ++ [')']) with
  | some (_, [')']) => true
  | _ => false

/-- A parenthesis in the text closes what nothing has opened. -/
def unbalanced (body : List Char) : Bool :=
  match readUpTo (body.length + 1) false [] [] body with
  | some (_, ')' :: _) => true
  | _ => false

theorem closes_iff : closes body = true ↔ ∃ t, Reads false [] [] (body ++ [')']) t [')'] := by
  unfold closes
  constructor
  · intro closed
    split at closed
    · next reads => exact ⟨_, reads_of_readUpTo reads⟩
    · simp at closed
  · rintro ⟨t, reads⟩
    rw [reads.readUpTo (body.length + 2) (by simp)]
    rfl

theorem unbalanced_iff : unbalanced body = true ↔ ∃ t rest, Reads false [] [] body t (')' :: rest) := by
  unfold unbalanced
  constructor
  · intro closed
    split at closed
    · next reads => exact ⟨_, _, reads_of_readUpTo reads⟩
    · simp at closed
  · rintro ⟨t, rest, reads⟩
    rw [reads.readUpTo (body.length + 1) (by simp)]
    rfl

theorem Reads.unique {spaced : Bool} {branches items : List Syntax} {cs rest' : List Char} {t' : Syntax}
    (one : Reads spaced branches items cs t rest) (two : Reads spaced branches items cs t' rest') :
    t = t' ∧ rest = rest' := by
  have here := one.readUpTo _ (Nat.lt_succ_self _)
  rw [two.readUpTo _ (Nat.lt_succ_self _)] at here
  simpa [eq_comm] using here

/-- What is read up to a parenthesis put after a text is what the text is on its own. -/
theorem reads_closed (closed : closes body = true) :
    ∃ t, ∀ v, Closing v → Reads false [] [] (body ++ v) t v := by
  obtain ⟨t, reads⟩ := closes_iff.mp closed
  obtain ⟨lead, split, takes⟩ := reads.local.resolve_right (by simp)
  obtain rfl := List.append_cancel_right split
  exact ⟨t, takes⟩

/-- Only a comment can swallow the parenthesis. -/
theorem closes_of_uncommented (reads : Reads false [] [] body t []) (plain : '#' ∉ body) : closes body = true := by
  obtain ⟨lead, split, takes⟩ := reads.local.resolve_right fun h => plain h.2
  rw [List.append_nil] at split
  subst split
  exact closes_iff.mpr ⟨t, takes _ (by simp [Closing])⟩

theorem balanced_of_notMem (plain : ')' ∉ body) : unbalanced body = false := by
  rw [← Bool.not_eq_true, unbalanced_iff]
  rintro ⟨t, rest, reads⟩
  exact plain (reads.suffix.subset List.mem_cons_self)

/-! ### Reading the anchored text -/

def Syntax.wrapped (t : Syntax) : Syntax :=
  .concat [.atom (.assertion .lineStart), .group (.flags ⟨[], []⟩) t, .atom (.assertion .lineEnd)]

theorem anchored_eq (body : List Char) :
    TextualPattern.anchored body = '^' :: '(' :: '?' :: ':' :: (body ++ [')', '$']) := by
  simp [TextualPattern.anchored]

theorem reads_group {items : List Syntax} {cs rest' : List Char} {body tree : Syntax}
    (inside : Reads false [] [] cs body (')' :: rest))
    (next : Reads false [] (.group (.flags ⟨[], []⟩) body :: items) rest tree rest') :
    Reads false [] items ('(' :: '?' :: ':' :: cs) tree rest' :=
  .group (skip_counting (by simp [Counts]) _) rfl inside next

theorem reads_wrapped (closed : closes body = true) (reads : Reads false [] [] body t []) :
    Reads false [] [] (TextualPattern.anchored body) t.wrapped [] := by
  obtain ⟨t', takes⟩ := reads_closed closed
  have alone := takes [] (by simp [Closing])
  rw [List.append_nil] at alone
  obtain ⟨rfl, -⟩ := alone.unique reads
  rw [anchored_eq]
  refine .item rfl (by simp) rfl (reads_group (takes [')', '$'] (by simp [Closing])) ?_)
  exact .item rfl (by simp) rfl (.stop rfl (by simp [Closing]))

theorem reads_of_wrapped {tree : Syntax} (reads : Reads false [] [] (TextualPattern.anchored body) tree [])
    (balanced : unbalanced body = false) :
    closes body = true ∧ ∃ t, Reads false [] [] body t [] := by
  rw [anchored_eq] at reads
  obtain ⟨items, r, read, next⟩ := reads.of_item rfl (by simp)
  obtain ⟨rfl, rfl⟩ := Prod.mk.inj (Option.some.inj read)
  obtain ⟨t, rest, inside, -⟩ := next.of_group rfl rfl
  obtain ⟨lead, split, takes⟩ := inside.local.resolve_right (by simp)
  have settled : body = lead → closes body = true ∧ ∃ t, Reads false [] [] body t [] := by
    rintro rfl
    have alone := takes [] (by simp [Closing])
    rw [List.append_nil] at alone
    exact ⟨closes_iff.mpr ⟨t, takes [')'] (by simp [Closing])⟩, t, alone⟩
  -- The parenthesis that closes the group is the one behind the body, or it is in the body.
  rcases List.append_eq_append_iff.mp split with ⟨more, rfl, ends⟩ | ⟨more, rfl, ends⟩
  · cases more with
    | nil => exact settled (by simp)
    | cons c more => cases more <;> simp at ends
  · cases more with
    | nil => exact settled (by simp)
    | cons c more =>
      obtain ⟨rfl, -⟩ := List.cons.inj ends
      have early := unbalanced_iff.mpr ⟨t, more, takes (')' :: more) (by simp [Closing])⟩
      simp [balanced] at early

/-! ### The meaning of the anchored text -/

namespace Expr

variable {e : Expr} {i j : Nat}

def whole (e : Expr) : Expr := .seqOf [.look .textStart, e, .look .textEnd]

theorem spans_textStart : Spans s (.look .textStart) i j ↔ i = 0 ∧ j = 0 := by
  rw [spans_look]
  cases i with
  | zero => simp [Look.holds, charBefore, eq_comm]
  | succ i =>
    simp only [Look.holds, charBefore, decide_eq_true_eq, List.getElem?_eq_none_iff]
    omega

theorem spans_textEnd : Spans s (.look .textEnd) i j ↔ i = s.length ∧ j = s.length := by
  simp only [spans_look, Look.holds, decide_eq_true_eq, List.getElem?_eq_none_iff]
  omega

theorem whole_eq (some : e ≠ .empty) : e.whole = .seq (.look .textStart) (.seq e (.look .textEnd)) := by
  cases e <;> first | rfl | exact absurd rfl some

/-- The anchors match exactly where the expression covers the whole text. -/
theorem spans_whole : Spans s e.whole i j ↔ i = 0 ∧ j = s.length ∧ Spans s e 0 s.length := by
  by_cases nothing : e = .empty
  · subst nothing
    have short : whole .empty = .seq (.look .textStart) (.look .textEnd) := rfl
    simp only [short, spans_seq, spans_textStart, spans_textEnd, spans_empty]
    grind
  · simp only [whole_eq nothing, spans_seq, spans_textStart, spans_textEnd]
    grind

/-- The anchors only add to an expression, so it fits wherever it fits with them. -/
theorem fits_of_whole (fits : e.whole.fits = true) : e.fits = true := by
  have grows : e.extent ≤ e.whole.extent := by
    by_cases nothing : e = .empty
    · subst nothing
      decide
    · simp only [whole_eq nothing, extent]
      omega
  simp only [Expr.fits, decide_eq_true_eq] at fits ⊢
  omega

end Expr

theorem expr?_wrapped (t : Syntax) : t.wrapped.expr? {} = (t.expr? {}).map fun p => (p.1.whole, {}) := by
  have start : (Syntax.atom (.assertion .lineStart)).expr? {} = some (.look .textStart, {}) := rfl
  have stop : (Syntax.atom (.assertion .lineEnd)).expr? {} = some (.look .textEnd, {}) := rfl
  have group : (Syntax.group (.flags ⟨[], []⟩) t).expr? {} = (t.expr? {}).map fun p => (p.1, {}) := rfl
  rw [Syntax.wrapped, Syntax.expr?]
  simp only [exprsOfItems?, start, group, Option.bind_eq_bind, Option.bind_some]
  cases t.expr? {} with
  | none => rfl
  | some p => simp [stop, Expr.whole]

theorem depth_wrapped : t.wrapped.depth = t.depth + 2 := by
  simp [Syntax.wrapped, Syntax.depth, Syntax.depthOfItems]

theorem groupNames_wrapped : t.wrapped.groupNames = t.groupNames := by
  simp [Syntax.wrapped, Syntax.groupNames, Syntax.groupNamesOfItems]

def hasRoom (body : List Char) (r : Regex) : Bool :=
  ((Syntax.read? body).all fun t => t.depth + 2 ≤ Syntax.depthLimit) && r.expr.whole.fits

/-- An expression that can be read anchored is the same expression then, at both ends of the text. -/
theorem read?_anchored (read : Regex.read? body = some r) (anchored : Regex) :
    Regex.read? (TextualPattern.anchored body) = some anchored ↔
      closes body = true ∧ hasRoom body r = true ∧ anchored.expr = r.expr.whole := by
  obtain ⟨t, after, tree, means⟩ := read?_eq_some_iff.mp read
  obtain ⟨reads, names, -⟩ := Syntax.read?_eq_some_iff.mp tree
  have wrapped : ∀ closed : closes body = true, ∀ t', Reads false [] [] (TextualPattern.anchored body) t' [] →
      t' = t.wrapped := fun closed t' reads' => (reads'.unique (reads_wrapped closed reads)).1
  have balanced : unbalanced body = false := by
    rw [← Bool.not_eq_true, unbalanced_iff]
    rintro ⟨t', rest, early⟩
    simpa using (early.unique reads).2
  have room : hasRoom body r = true ↔ t.depth + 2 ≤ Syntax.depthLimit ∧ r.expr.whole.fits = true := by
    simp [hasRoom, tree]
  rw [room]
  constructor
  · intro found
    obtain ⟨t', after', tree', means'⟩ := read?_eq_some_iff.mp found
    obtain ⟨reads', -, deep⟩ := Syntax.read?_eq_some_iff.mp tree'
    have closed := (reads_of_wrapped reads' balanced).1
    obtain rfl := wrapped closed t' reads'
    rw [expr?_wrapped, means] at means'
    obtain ⟨same, -⟩ := Prod.mk.inj (Option.some.inj means')
    rw [depth_wrapped] at deep
    exact ⟨closed, ⟨deep, (congrArg Expr.fits same).trans anchored.fits⟩, same.symm⟩
  · rintro ⟨closed, ⟨deep, -⟩, same⟩
    refine read?_eq_some_iff.mpr ⟨t.wrapped, {}, Syntax.read?_eq_some_iff.mpr ⟨reads_wrapped closed reads, ?_, ?_⟩, ?_⟩
    · rwa [groupNames_wrapped]
    · rwa [depth_wrapped]
    · rw [expr?_wrapped, means, same]
      rfl

/-- What cannot be read cannot be read anchored, unless it closes the group too early. -/
theorem read?_anchored_none (read : Regex.read? body = none) (balanced : unbalanced body = false) :
    Regex.read? (TextualPattern.anchored body) = none := by
  apply Option.eq_none_iff_forall_ne_some.mpr
  intro anchored found
  obtain ⟨t', after', tree', means'⟩ := read?_eq_some_iff.mp found
  obtain ⟨reads', names, deep⟩ := Syntax.read?_eq_some_iff.mp tree'
  obtain ⟨closed, t, reads⟩ := reads_of_wrapped reads' balanced
  obtain ⟨rfl, -⟩ := reads'.unique (reads_wrapped closed reads)
  rw [expr?_wrapped] at means'
  obtain ⟨⟨e, after⟩, means, same⟩ := Option.map_eq_some_iff.mp means'
  rw [groupNames_wrapped] at names
  rw [depth_wrapped] at deep
  have tree := Syntax.read?_eq_some_iff.mpr ⟨reads, names, by omega⟩
  have fits : e.fits = true := Expr.fits_of_whole ((congrArg Expr.fits (Prod.mk.inj same).1).trans anchored.fits)
  have valid : Regex.read? body = some ⟨e, fits⟩ := read?_eq_some_iff.mpr ⟨t, after, tree, means⟩
  simp [valid] at read

end EdgeAlert.Regex
