import EdgeAlert.Proofs.Regex.Brackets
import EdgeAlert.Regex.Reader

/-!
# How far expressions look

An expression is read up to the parenthesis that closes its group or to the end of the text, and what
follows a closing parenthesis does not matter. Two readers look one character ahead: the one that
passes over the mark of a reluctant repetition, and the one that tells plain groups from others. A
comment is the exception: what is put after an expression that ends in one belongs to the comment.
-/

namespace EdgeAlert.Regex

variable {spaced : Bool} {cs rest mid u v : List Char} {c : Char}

/-! ### The start of a group -/

theorem readName_local : Local readName := by
  intro cs name rest reads
  unfold readName at reads
  dsimp only at reads
  split at reads
  · simp at reads
  · next d rest ends =>
    obtain ⟨split, ended⟩ := takeWhile_ended ends
    split at reads
    · next named =>
      obtain ⟨rfl, rfl⟩ := Prod.mk.inj (Option.some.inj reads)
      refine ⟨cs.takeWhile (· ≠ '>') ++ [d], by simpa using split, fun v => ?_⟩
      rw [List.append_assoc, List.singleton_append, readName]
      rw [ended, List.drop_left]
      dsimp only
      rw [if_pos named]
    · simp at reads

theorem readFlags_local {o : Opening} (reads : readFlags cs = some (o, rest)) :
    ∃ letters d, cs = letters ++ d :: rest ∧ (d = ':' ∨ d = ')') ∧
      ∀ v, readFlags (letters ++ d :: v) = some (o, v) := by
  unfold readFlags at reads
  obtain ⟨change, known, reads⟩ := Option.bind_eq_some_iff.mp reads
  split at reads
  · next rest' ends =>
    obtain ⟨rfl, rfl⟩ := Prod.mk.inj (Option.some.inj reads)
    obtain ⟨split, ended⟩ := takeWhile_ended ends
    refine ⟨_, ':', split, .inl rfl, fun v => ?_⟩
    simp only [readFlags, ended v, known, List.drop_left, Option.bind_eq_bind, Option.bind_some]
    rfl
  · next rest' ends =>
    obtain ⟨split, ended⟩ := takeWhile_ended ends
    split at reads
    · simp at reads
    · next some =>
      obtain ⟨rfl, rfl⟩ := Prod.mk.inj (Option.some.inj reads)
      refine ⟨_, ')', split, .inr rfl, fun v => ?_⟩
      simp only [readFlags, ended v, known, List.drop_left, Option.bind_eq_bind, Option.bind_some]
      rw [if_neg some]
      rfl
  · simp at reads

theorem readGroupStart_named {r : List Char} (plain : c ≠ '=' ∧ c ≠ '!') :
    readGroupStart ('?' :: '<' :: c :: r) =
      (readName (c :: r)).map fun p => (.group (.capture (some p.1)), p.2) := by
  unfold readGroupStart
  split <;> simp_all
  grind

theorem readGroupStart_flags {d : Char} {r : List Char} (plain : c ≠ '=' ∧ c ≠ '!' ∧ c ≠ '<')
    (unnamed : c = 'P' → d ≠ '<') : readGroupStart ('?' :: c :: d :: r) = readFlags (c :: d :: r) := by
  unfold readGroupStart
  split <;> simp_all

/-- Either the marks of a group are taken, or it has none. -/
theorem readGroupStart_cases {o : Opening} (reads : readGroupStart cs = some (o, rest)) :
    (∃ lead, cs = lead ++ rest ∧ lead ≠ [] ∧ Takes readGroupStart lead o) ∨
      (o = .group (.capture none) ∧ cs = rest ∧ ∀ r, rest ≠ '?' :: r) := by
  unfold readGroupStart at reads
  split at reads
  · simp at reads
  · simp at reads
  · simp at reads
  · simp at reads
  · next r =>
    obtain ⟨⟨name, rest⟩, read, same⟩ := Option.map_eq_some_iff.mp reads
    obtain ⟨rfl, rfl⟩ := Prod.mk.inj same
    obtain ⟨lead, rfl, takes⟩ := readName_local r name rest read
    refine .inl ⟨'?' :: 'P' :: '<' :: lead, rfl, by simp, fun v => ?_⟩
    show (readName (lead ++ v)).map _ = _
    rw [takes v]
    rfl
  · next r equal mark =>
    obtain ⟨⟨name, rest⟩, read, same⟩ := Option.map_eq_some_iff.mp reads
    obtain ⟨rfl, rfl⟩ := Prod.mk.inj same
    obtain ⟨lead, rfl, takes⟩ := readName_local r name rest read
    cases lead with
    | nil => simpa [readName] using takes []
    | cons c lead =>
      have plain : c ≠ '=' ∧ c ≠ '!' := ⟨by rintro rfl; exact equal _ rfl, by rintro rfl; exact mark _ rfl⟩
      refine .inl ⟨'?' :: '<' :: c :: lead, rfl, by simp, fun v => ?_⟩
      show readGroupStart ('?' :: '<' :: c :: (lead ++ v)) = _
      rw [readGroupStart_named plain, ← List.cons_append, takes v]
      rfl
  · next r ahead aheadNot behind behindNot named angled =>
    obtain ⟨letters, d, rfl, ends, takes⟩ := readFlags_local reads
    left
    cases letters with
    | nil =>
      refine ⟨['?', d], rfl, by simp, fun v => ?_⟩
      rcases ends with rfl | rfl
      · exact takes v
      · exact takes v
    | cons c letters =>
      obtain ⟨e, more, split⟩ := List.exists_cons_of_ne_nil (List.append_ne_nil_of_right_ne_nil letters
        (List.cons_ne_nil d []))
      have whole : ∀ v, letters ++ d :: v = e :: (more ++ v) := by
        intro v
        have := congrArg (· ++ v) split
        simpa using this
      refine ⟨'?' :: c :: e :: more, by simp [whole], by simp, fun v => ?_⟩
      have here := takes v
      rw [List.cons_append, whole] at here
      rw [List.cons_append, List.cons_append, List.cons_append, readGroupStart_flags, here]
      · refine ⟨?_, ?_, ?_⟩
        · rintro rfl
          exact ahead _ rfl
        · rintro rfl
          exact aheadNot _ rfl
        · rintro rfl
          exact angled _ rfl
      · rintro rfl rfl
        exact named _ (congrArg ('P' :: ·) (whole rest))
  · next unmarked =>
    obtain ⟨rfl, rfl⟩ := Prod.mk.inj (Option.some.inj reads)
    exact .inr ⟨rfl, rfl, unmarked⟩

/-! ### Items -/

/-- What may follow: the parenthesis that closes a group, or nothing. -/
def Closing (v : List Char) : Prop := ∀ c r, v = c :: r → c = ')'

theorem skip_closing (closing : Closing v) : skip spaced v = v := by
  cases v with
  | nil => cases spaced <;> rfl
  | cons c r =>
    obtain rfl := closing c r rfl
    exact skip_counting (fun _ => by decide) r

/-- Passing over what does not count leaves the same before any closing, unless it ends in a comment. -/
theorem skip_local (skipped : skip spaced cs = mid ++ u) :
    (∃ lead, cs = lead ++ (mid ++ u) ∧ ∀ v, Closing v → skip spaced (lead ++ (mid ++ v)) = mid ++ v) ∨
      (mid ++ u = [] ∧ '#' ∈ cs) := by
  rcases skip_cases spaced cs with ⟨lead, split, passes⟩ | ⟨nothing, comment⟩
  · refine .inl ⟨lead, skipped ▸ split, fun v closing => ?_⟩
    rw [passes]
    cases mid with
    | nil => exact skip_closing closing
    | cons c mid => exact skip_counting (counts_of_skip skipped) (mid ++ v)
  · exact .inr ⟨skipped ▸ nothing, comment⟩

theorem dropReluctant_local (drops : dropReluctant cs = mid ++ u) :
    ∃ lead, cs = lead ++ (mid ++ u) ∧ ∀ v, Closing v → dropReluctant (lead ++ (mid ++ v)) = mid ++ v := by
  unfold dropReluctant at drops
  split at drops
  · next r =>
    subst drops
    exact ⟨['?'], rfl, fun v _ => rfl⟩
  · next greedy =>
    subst drops
    refine ⟨[], rfl, fun v closing => ?_⟩
    unfold dropReluctant
    split
    · next r same =>
      cases mid with
      | nil => simpa using closing '?' r same
      | cons c mid =>
        obtain ⟨rfl, -⟩ := List.cons.inj same
        exact (greedy (mid ++ u) rfl).elim
    · rfl

def Clear (spaced : Bool) (mid : List Char) : Prop := ∀ r, mid = '{' :: r → skip spaced r ≠ []

def readItem (spaced : Bool) (items : List Syntax) : List Char → Option (List Syntax × List Char)
  | [] => none
  | '[' :: rest => (readBracket spaced rest).map fun p => (p.1 :: items, p.2)
  | '?' :: rest => (repeatLast? 0 (some 1) items).map fun items => (items, dropReluctant rest)
  | '*' :: rest => (repeatLast? 0 none items).map fun items => (items, dropReluctant rest)
  | '+' :: rest => (repeatLast? 1 none items).map fun items => (items, dropReluctant rest)
  | '{' :: rest => (readBraced spaced false rest).bind fun p => (counts? p.1).bind fun counts =>
      (repeatLast? counts.1 counts.2 items).map fun items => (items, dropReluctant (skip spaced p.2))
  | '\\' :: rest => (readEscape spaced rest).map fun p => (.atom p.1 :: items, p.2)
  | '.' :: rest => some (.atom .dot :: items, rest)
  | '^' :: rest => some (.atom (.assertion .lineStart) :: items, rest)
  | '$' :: rest => some (.atom (.assertion .lineEnd) :: items, rest)
  | c :: rest => some (.atom (.literal { char := c }) :: items, rest)

theorem skip_append {m : List Char} (skipped : skip spaced m = c :: rest) (v : List Char) :
    skip spaced (m ++ v) = c :: (rest ++ v) := by
  obtain ⟨before, rfl, passes⟩ := exists_skipped skipped
  rw [List.append_assoc, List.cons_append, passes]

theorem readBoundary_unnamed
    (unnamed : ∀ r, cs = '{' :: r → ∃ c more, skip spaced r = c :: more ∧ isEdgeLetter c = false) :
    readBoundary spaced cs = some (.boundary, cs) := by
  unfold readBoundary
  split
  · next r =>
    obtain ⟨c, more, skipped, other⟩ := unnamed r rfl
    simp [skipped, other]
  · rfl

/-- An item is decided by what it takes and by what is read next, unless it ends in a comment. -/
theorem readItem_local {items items' : List Syntax}
    (reads : readItem spaced items cs = some (items', mid ++ u)) (clear : Clear spaced mid) :
    (∃ lead, cs = lead ++ (mid ++ u) ∧ lead ≠ [] ∧
      ∀ v, Closing v → readItem spaced items (lead ++ (mid ++ v)) = some (items', mid ++ v)) ∨
    (mid ++ u = [] ∧ '#' ∈ cs) := by
  have single : ∀ c r (t : Syntax), (∀ r, readItem spaced items (c :: r) = some (t :: items, r)) →
      some (t :: items, r) = some (items', mid ++ u) →
      ∃ lead, c :: r = lead ++ (mid ++ u) ∧ lead ≠ [] ∧
        ∀ v, Closing v → readItem spaced items (lead ++ (mid ++ v)) = some (items', mid ++ v) := by
    intro c r t takes same
    obtain ⟨rfl, rfl⟩ := Prod.mk.inj (Option.some.inj same)
    exact ⟨[c], rfl, by simp, fun v _ => takes (mid ++ v)⟩
  have repeated : ∀ c r (added : Option (List Syntax)),
      (∀ r, readItem spaced items (c :: r) = added.map fun i => (i, dropReluctant r)) →
      added.map (fun i => (i, dropReluctant r)) = some (items', mid ++ u) →
      ∃ lead, c :: r = lead ++ (mid ++ u) ∧ lead ≠ [] ∧
        ∀ v, Closing v → readItem spaced items (lead ++ (mid ++ v)) = some (items', mid ++ v) := by
    intro c r added takes reads
    obtain ⟨items, rfl, same⟩ := Option.map_eq_some_iff.mp reads
    obtain ⟨rfl, drops⟩ := Prod.mk.inj same
    obtain ⟨lead, rfl, dropped⟩ := dropReluctant_local drops
    refine ⟨c :: lead, rfl, by simp, fun v closing => ?_⟩
    rw [List.cons_append, takes, Option.map_some, dropped v closing]
  unfold readItem at reads
  split at reads
  · simp at reads
  · next r =>
    obtain ⟨⟨t, rest⟩, read, same⟩ := Option.map_eq_some_iff.mp reads
    obtain ⟨rfl, rfl⟩ := Prod.mk.inj same
    obtain ⟨lead, rfl, takes⟩ := readBracket_local spaced r t _ read
    refine .inl ⟨'[' :: lead, rfl, by simp, fun v _ => ?_⟩
    simp only [List.cons_append, readItem, takes (mid ++ v)]
    rfl
  · next r => exact .inl (repeated '?' r _ (fun _ => rfl) reads)
  · next r => exact .inl (repeated '*' r _ (fun _ => rfl) reads)
  · next r => exact .inl (repeated '+' r _ (fun _ => rfl) reads)
  · next r =>
    obtain ⟨⟨body, rest⟩, read, reads⟩ := Option.bind_eq_some_iff.mp reads
    obtain ⟨counts, known, reads⟩ := Option.bind_eq_some_iff.mp reads
    obtain ⟨items, added, same⟩ := Option.map_eq_some_iff.mp reads
    obtain ⟨rfl, drops⟩ := Prod.mk.inj same
    obtain ⟨braces, rfl, takes⟩ := readBraced_local spaced false r body rest read
    obtain ⟨mark, split, dropped⟩ := dropReluctant_local drops
    rw [← List.append_assoc] at split
    rcases skip_local split with ⟨blanks, rfl, skipped⟩ | ⟨nothing, comment⟩
    · refine .inl ⟨'{' :: braces ++ blanks ++ mark, by simp, by simp, fun v closing => ?_⟩
      have here := skipped v closing
      have there := takes (blanks ++ (mark ++ mid ++ v))
      simp only [List.append_assoc, List.cons_append] at here there ⊢
      simp only [readItem, there, Option.bind_some, known, added, Option.map_some, here, dropped v closing]
    · right
      simp only [List.append_assoc, List.append_eq_nil_iff] at nothing
      exact ⟨by simp [nothing.2], by simp [comment]⟩
  · next r =>
    obtain ⟨⟨a, rest⟩, read, same⟩ := Option.map_eq_some_iff.mp reads
    obtain ⟨rfl, rfl⟩ := Prod.mk.inj same
    left
    rcases readEscape_local read with ⟨lead, rfl, -, takes⟩ | ⟨rfl, rfl, unnamed⟩
    · refine ⟨'\\' :: lead, rfl, by simp, fun v _ => ?_⟩
      simp only [List.cons_append, readItem, takes (mid ++ v)]
      rfl
    · refine ⟨['\\', 'b'], rfl, by simp, fun v closing => ?_⟩
      have plain : readBoundary spaced (mid ++ v) = some (.boundary, mid ++ v) := by
        refine readBoundary_unnamed fun r same => ?_
        cases mid with
        | nil => simpa using closing '{' r same
        | cons d m =>
          obtain ⟨rfl, rfl⟩ := List.cons.inj same
          obtain ⟨c, more, skipped⟩ := List.exists_cons_of_ne_nil (clear m rfl)
          obtain ⟨c', more', skipped', other⟩ := unnamed (m ++ u) rfl
          obtain ⟨rfl, -⟩ := List.cons.inj ((skip_append skipped u).symm.trans skipped')
          exact ⟨c, more ++ v, skip_append skipped v, other⟩
      show ((readEscape spaced ('b' :: (mid ++ v))).map _) = _
      simp only [readEscape, plain]
      rfl
  · next r => exact .inl (single '.' r _ (fun _ => rfl) reads)
  · next r => exact .inl (single '^' r _ (fun _ => rfl) reads)
  · next r => exact .inl (single '$' r _ (fun _ => rfl) reads)
  · next c r _ _ _ _ _ _ _ _ _ => exact .inl (single c r _ (fun r => by simp [readItem, *]) reads)

/-! ### Expressions -/

def GroupKind.inside (outer : Bool) : GroupKind → Bool
  | .flags change => change.apply .spaced outer
  | .capture _ => outer

/-- What the reader makes of a text, step by step: the tree, and the text where it stops. -/
inductive Reads : (spaced : Bool) → (branches items : List Syntax) → List Char → Syntax → List Char → Prop
  | stop {spaced branches items cs rest} (skipped : skip spaced cs = rest) (closing : Closing rest) :
      Reads spaced branches items cs (close branches items) rest
  | bar {spaced branches items cs r t rest} (skipped : skip spaced cs = '|' :: r)
      (next : Reads spaced (.ofItems items.reverse :: branches) [] r t rest) :
      Reads spaced branches items cs t rest
  | change {spaced branches items cs r change r' t rest} (skipped : skip spaced cs = '(' :: r)
      (starts : readGroupStart (skip spaced r) = some (.change change, r'))
      (next : Reads (change.apply .spaced spaced) branches (.flags change :: items) r' t rest) :
      Reads spaced branches items cs t rest
  | group {spaced branches items cs r kind r' body r'' t rest} (skipped : skip spaced cs = '(' :: r)
      (starts : readGroupStart (skip spaced r) = some (.group kind, r'))
      (inside : Reads (kind.inside spaced) [] [] r' body (')' :: r''))
      (next : Reads spaced branches (.group kind body :: items) r'' t rest) :
      Reads spaced branches items cs t rest
  | item {spaced branches items cs c r items' r' t rest} (skipped : skip spaced cs = c :: r)
      (inner : c ≠ ')' ∧ c ≠ '|' ∧ c ≠ '(') (read : readItem spaced items (c :: r) = some (items', r'))
      (next : Reads spaced branches items' r' t rest) : Reads spaced branches items cs t rest

variable {fuel : Nat} {branches items : List Syntax} {t : Syntax}

theorem readUpTo_item {fuel : Nat} {branches items : List Syntax} (skipped : skip spaced cs = c :: rest)
    (inner : c ≠ ')' ∧ c ≠ '|' ∧ c ≠ '(') :
    readUpTo (fuel + 1) spaced branches items cs =
      (readItem spaced items (c :: rest)).bind fun p => readUpTo fuel spaced branches p.1 p.2 := by
  rw [readUpTo, skipped]
  unfold readItem
  split <;> simp_all
  · next r _ => cases readBracket spaced r <;> rfl
  · cases repeatLast? 0 (some 1) items <;> rfl
  · cases repeatLast? 0 none items <;> rfl
  · cases repeatLast? 1 none items <;> rfl
  · next r _ =>
    cases readBraced spaced false r with
    | none => rfl
    | some p =>
      cases known : counts? p.1 with
      | none => simp [known]
      | some counts => cases added : repeatLast? counts.1 counts.2 items <;> simp [known, added]
  · next r _ => cases readEscape spaced r <;> rfl

theorem readUpTo_bar {r : List Char} (skipped : skip spaced cs = '|' :: r) :
    readUpTo (fuel + 1) spaced branches items cs =
      readUpTo fuel spaced (.ofItems items.reverse :: branches) [] r := by
  rw [readUpTo, skipped]
  rfl

theorem readUpTo_open {r : List Char} (skipped : skip spaced cs = '(' :: r) :
    readUpTo (fuel + 1) spaced branches items cs = match readGroupStart (skip spaced r) with
      | none => none
      | some (.change change, r') =>
        readUpTo fuel (change.apply .spaced spaced) branches (.flags change :: items) r'
      | some (.group kind, r') => match readUpTo fuel (kind.inside spaced) [] [] r' with
        | some (body, ')' :: r'') => readUpTo fuel spaced branches (.group kind body :: items) r''
        | _ => none := by
  rw [readUpTo, skipped]
  rfl

theorem readUpTo_stop (closing : Closing (skip spaced cs)) :
    readUpTo (fuel + 1) spaced branches items cs = some (close branches items, skip spaced cs) := by
  rcases skipped : skip spaced cs with _ | ⟨c, r⟩
  · rw [readUpTo, skipped]
  · obtain rfl := closing c r skipped
    rw [readUpTo, skipped]
    rfl

theorem reads_of_readUpTo (reads : readUpTo fuel spaced branches items cs = some (t, rest)) :
    Reads spaced branches items cs t rest := by
  induction fuel generalizing spaced branches items cs t rest with
  | zero => simp [readUpTo] at reads
  | succ fuel ih =>
    by_cases closing : Closing (skip spaced cs)
    · rw [readUpTo_stop closing] at reads
      obtain ⟨rfl, rfl⟩ := Prod.mk.inj (Option.some.inj reads)
      exact .stop rfl closing
    obtain ⟨c, r, skipped, goes⟩ : ∃ c r, skip spaced cs = c :: r ∧ c ≠ ')' := by
      simpa [Closing] using closing
    by_cases bar : c = '|'
    · subst bar
      rw [readUpTo_bar skipped] at reads
      exact .bar skipped (ih reads)
    by_cases opens : c = '('
    · subst opens
      rw [readUpTo_open skipped] at reads
      split at reads
      · simp at reads
      · next starts => exact .change skipped starts (ih reads)
      · next starts =>
        split at reads
        · next inside => exact .group skipped starts (ih inside) (ih reads)
        · simp at reads
    · rw [readUpTo_item skipped ⟨goes, bar, opens⟩] at reads
      obtain ⟨⟨items', r'⟩, read, reads⟩ := Option.bind_eq_some_iff.mp reads
      exact .item skipped ⟨goes, bar, opens⟩ read (ih reads)

theorem skip_suffix (spaced : Bool) (cs : List Char) : skip spaced cs <:+ cs := by
  rcases skip_cases spaced cs with ⟨lead, split, -⟩ | ⟨nothing, -⟩
  · exact ⟨lead, split.symm⟩
  · rw [nothing]
    exact List.nil_suffix

theorem readGroupStart_suffix {o : Opening} (reads : readGroupStart cs = some (o, rest)) : rest <:+ cs := by
  rcases readGroupStart_cases reads with ⟨lead, rfl, -, -⟩ | ⟨-, rfl, -⟩
  · exact List.suffix_append lead rest
  · exact List.suffix_rfl

theorem readItem_suffix {items' : List Syntax} (reads : readItem spaced items cs = some (items', rest)) :
    rest <:+ cs ∧ rest.length < cs.length := by
  have clear : Clear spaced [] := by simp [Clear]
  rw [← List.nil_append rest] at reads
  rcases readItem_local reads clear with ⟨lead, rfl, some, -⟩ | ⟨nothing, comment⟩
  · have := List.length_pos_iff.mpr some
    refine ⟨List.suffix_append lead rest, ?_⟩
    simp
    omega
  · obtain rfl : rest = [] := nothing
    exact ⟨List.nil_suffix, List.length_pos_of_mem comment⟩

theorem Reads.suffix (reads : Reads spaced branches items cs t rest) : rest <:+ cs := by
  induction reads with
  | stop skipped _ => exact skipped ▸ skip_suffix _ _
  | bar skipped _ ih =>
    exact ih.trans ((List.suffix_cons _ _).trans (skipped ▸ skip_suffix _ _))
  | change skipped starts _ ih =>
    have inner := (readGroupStart_suffix starts).trans (skip_suffix _ _)
    exact ih.trans (inner.trans ((List.suffix_cons _ _).trans (skipped ▸ skip_suffix _ _)))
  | group skipped starts _ _ inside next =>
    have inner := (readGroupStart_suffix starts).trans (skip_suffix _ _)
    have closed := (List.suffix_cons _ _).trans (inside.trans inner)
    exact next.trans (closed.trans ((List.suffix_cons _ _).trans (skipped ▸ skip_suffix _ _)))
  | item skipped _ read _ ih =>
    exact ih.trans ((readItem_suffix read).1.trans (skipped ▸ skip_suffix _ _))

theorem length_of_skip (skipped : skip spaced cs = c :: rest) : rest.length < cs.length := by
  have := (skip_suffix spaced cs).length_le
  rw [skipped, List.length_cons] at this
  omega

theorem length_of_start {o : Opening} (starts : readGroupStart (skip spaced cs) = some (o, rest)) :
    rest.length ≤ cs.length :=
  ((readGroupStart_suffix starts).trans (skip_suffix spaced cs)).length_le

theorem Reads.readUpTo (reads : Reads spaced branches items cs t rest) :
    ∀ fuel, cs.length < fuel → readUpTo fuel spaced branches items cs = some (t, rest) := by
  induction reads with
  | stop skipped closing =>
    intro fuel enough
    obtain ⟨fuel, rfl⟩ := Nat.exists_eq_add_one_of_ne_zero (Nat.ne_zero_of_lt enough)
    subst skipped
    exact readUpTo_stop closing
  | bar skipped _ ih =>
    intro fuel enough
    obtain ⟨fuel, rfl⟩ := Nat.exists_eq_add_one_of_ne_zero (Nat.ne_zero_of_lt enough)
    have shorter := length_of_skip skipped
    rw [readUpTo_bar skipped]
    exact ih fuel (by omega)
  | change skipped starts _ ih =>
    intro fuel enough
    obtain ⟨fuel, rfl⟩ := Nat.exists_eq_add_one_of_ne_zero (Nat.ne_zero_of_lt enough)
    have shorter := length_of_skip skipped
    have inner := length_of_start starts
    rw [readUpTo_open skipped, starts]
    exact ih fuel (by omega)
  | group skipped starts inside _ ihInside ih =>
    intro fuel enough
    obtain ⟨fuel, rfl⟩ := Nat.exists_eq_add_one_of_ne_zero (Nat.ne_zero_of_lt enough)
    have shorter := length_of_skip skipped
    have inner := length_of_start starts
    have closed := inside.suffix.length_le
    rw [List.length_cons] at closed
    rw [readUpTo_open skipped, starts]
    simp only [ihInside fuel (by omega)]
    exact ih fuel (by omega)
  | item skipped inner read _ ih =>
    intro fuel enough
    obtain ⟨fuel, rfl⟩ := Nat.exists_eq_add_one_of_ne_zero (Nat.ne_zero_of_lt enough)
    have shorter := length_of_skip skipped
    have taken := (readItem_suffix read).2
    rw [List.length_cons] at taken
    rw [readUpTo_item skipped inner, read]
    exact ih fuel (by omega)

theorem dropReluctant_suffix (cs : List Char) : dropReluctant cs <:+ cs := by
  unfold dropReluctant
  split
  · exact List.suffix_cons _ _
  · exact List.suffix_rfl

theorem Reads.of_item {r : List Char} (reads : Reads spaced branches items cs t rest)
    (skipped : skip spaced cs = c :: r) (inner : c ≠ ')' ∧ c ≠ '|' ∧ c ≠ '(') :
    ∃ items' r', readItem spaced items (c :: r) = some (items', r') ∧ Reads spaced branches items' r' t rest := by
  cases reads with
  | stop here closing => exact absurd (closing c r (here.symm.trans skipped)) inner.1
  | bar here _ => exact absurd (List.cons.inj (skipped.symm.trans here)).1 inner.2.1
  | change here _ _ => exact absurd (List.cons.inj (skipped.symm.trans here)).1 inner.2.2
  | group here _ _ _ => exact absurd (List.cons.inj (skipped.symm.trans here)).1 inner.2.2
  | item here _ read next =>
    obtain ⟨rfl, rfl⟩ := List.cons.inj (skipped.symm.trans here)
    exact ⟨_, _, read, next⟩

theorem Reads.of_group {r r' : List Char} {kind : GroupKind} (reads : Reads spaced branches items cs t rest)
    (skipped : skip spaced cs = '(' :: r) (starts : readGroupStart (skip spaced r) = some (.group kind, r')) :
    ∃ body r'', Reads (kind.inside spaced) [] [] r' body (')' :: r'') ∧
      Reads spaced branches (.group kind body :: items) r'' t rest := by
  cases reads with
  | stop here closing => simpa using closing '(' r (here.symm.trans skipped)
  | bar here _ => simpa using (List.cons.inj (skipped.symm.trans here)).1
  | change here starts' _ =>
    obtain ⟨-, rfl⟩ := List.cons.inj (skipped.symm.trans here)
    simp [starts] at starts'
  | group here starts' inside next =>
    obtain ⟨-, rfl⟩ := List.cons.inj (skipped.symm.trans here)
    obtain ⟨rfl, rfl⟩ : _ ∧ _ := by simpa using starts.symm.trans starts'
    exact ⟨_, _, inside, next⟩
  | item here inner _ _ => exact absurd (List.cons.inj (skipped.symm.trans here)).1.symm inner.2.2

theorem Reads.clear {m : List Char} (reads : Reads spaced branches items ('{' :: (m ++ rest)) t rest) :
    skip spaced m ≠ [] := by
  obtain ⟨items', r', read, next⟩ := reads.of_item (skip_counting (fun _ => by decide) _) (by simp)
  obtain ⟨⟨body, r⟩, inside, read⟩ := Option.bind_eq_some_iff.mp read
  obtain ⟨counts, -, read⟩ := Option.bind_eq_some_iff.mp read
  obtain ⟨items, -, same⟩ := Option.map_eq_some_iff.mp read
  obtain ⟨-, rfl⟩ := Prod.mk.inj same
  obtain ⟨lead, split, takes⟩ := readBraced_local spaced false _ body r inside
  -- What is left of the text after the braces ends in `rest`, so the braces are in `m`.
  obtain ⟨between, rfl⟩ := next.suffix.trans ((dropReluctant_suffix _).trans (skip_suffix spaced r))
  rw [← List.append_assoc] at split
  obtain rfl := List.append_cancel_right split
  obtain ⟨c, more, counted⟩ := List.exists_cons_of_ne_nil (skip_ne_nil_of_takes takes)
  rw [skip_append counted]
  simp

theorem readGroupStart_plain (plain : c ≠ '?') (rest : List Char) :
    readGroupStart (c :: rest) = some (.group (.capture none), c :: rest) := by
  unfold readGroupStart
  split <;> simp_all

/-- What a parenthesis opens does not depend on the text behind its marks. Where it has none, the
character behind it is the same. -/
theorem opening_local {r r' : List Char} {o : Opening} (starts : readGroupStart (skip spaced r) = some (o, r'))
    (marked : r' ≠ [] ∨ o ≠ .group (.capture none)) :
    ∃ lead, r = lead ++ r' ∧ ∀ r'', r''.head? = r'.head? ∨ o ≠ .group (.capture none) →
      readGroupStart (skip spaced (lead ++ r'')) = some (o, r'') := by
  rcases readGroupStart_cases starts with ⟨marks, split, some, taken⟩ | ⟨rfl, same, plain⟩
  · obtain ⟨c, marks, rfl⟩ := List.exists_cons_of_ne_nil some
    obtain ⟨blanks, rfl, skips⟩ := exists_skipped split
    refine ⟨blanks ++ c :: marks, by simp, fun r'' _ => ?_⟩
    rw [List.append_assoc, List.cons_append, skips]
    exact taken r''
  · obtain ⟨c, tail, rfl⟩ := List.exists_cons_of_ne_nil (marked.resolve_right (by simp))
    obtain ⟨blanks, rfl, skips⟩ := exists_skipped same
    refine ⟨blanks, rfl, fun r'' alike => ?_⟩
    obtain ⟨tail'', rfl⟩ := List.head?_eq_some_iff.mp (alike.resolve_right (by simp))
    rw [skips]
    exact readGroupStart_plain (by rintro rfl; exact plain tail rfl) tail''

/-- What is read stays so before any closing, unless it ends in a comment. -/
theorem Reads.local (reads : Reads spaced branches items cs t rest) :
    (∃ lead, cs = lead ++ rest ∧ ∀ v, Closing v → Reads spaced branches items (lead ++ v) t v) ∨
      (rest = [] ∧ '#' ∈ cs) := by
  induction reads with
  | @stop _ _ _ _ rest skipped closing =>
    rw [← List.nil_append rest] at skipped
    rcases skip_local skipped with ⟨lead, split, passes⟩ | ⟨nothing, comment⟩
    · exact .inl ⟨lead, split, fun v closing => .stop (passes v closing) closing⟩
    · exact .inr ⟨nothing, comment⟩
  | bar skipped _ ih =>
    obtain ⟨before, rfl, passes⟩ := exists_skipped skipped
    rcases ih with ⟨lead, rfl, takes⟩ | ⟨nothing, comment⟩
    · refine .inl ⟨before ++ '|' :: lead, by simp, fun v closing => ?_⟩
      rw [List.append_assoc]
      exact .bar (passes (lead ++ v)) (takes v closing)
    · exact .inr ⟨nothing, by simp [comment]⟩
  | change skipped starts _ ih =>
    obtain ⟨before, rfl, passes⟩ := exists_skipped skipped
    obtain ⟨marks, rfl, opens⟩ := opening_local starts (.inr (by simp))
    rcases ih with ⟨lead, rfl, takes⟩ | ⟨nothing, comment⟩
    · refine .inl ⟨before ++ '(' :: (marks ++ lead), by simp, fun v closing => ?_⟩
      rw [List.append_assoc, List.cons_append, List.append_assoc]
      exact .change (passes _) (opens _ (.inr (by simp))) (takes v closing)
    · exact .inr ⟨nothing, by simp [comment]⟩
  | group skipped starts inside _ ihInside ih =>
    obtain ⟨before, rfl, passes⟩ := exists_skipped skipped
    obtain ⟨body, rfl, takesBody⟩ := ihInside.resolve_right (by simp)
    obtain ⟨marks, rfl, opens⟩ := opening_local starts (.inl (by simp))
    rcases ih with ⟨lead, rfl, takes⟩ | ⟨nothing, comment⟩
    · refine .inl ⟨before ++ '(' :: (marks ++ (body ++ ')' :: lead)), by simp, fun v closing => ?_⟩
      rw [List.append_assoc, List.cons_append, List.append_assoc, List.append_assoc, List.cons_append]
      refine .group (passes _) (opens _ (.inl ?_)) (takesBody _ ?_) (takes v closing)
      · cases body <;> rfl
      · simp [Closing]
    · exact .inr ⟨nothing, by simp [comment]⟩
  | @item spaced branches items cs c r items' r' t rest skipped inner read next ih =>
    obtain ⟨before, rfl, passes⟩ := exists_skipped skipped
    rcases ih with ⟨lead, rfl, takes⟩ | ⟨nothing, comment⟩
    · have clear : Clear spaced lead := by
        rintro m rfl
        exact next.clear
      rcases readItem_local read clear with ⟨taken, split, some, reads⟩ | ⟨nothing, comment⟩
      · obtain ⟨d, taken, rfl⟩ := List.exists_cons_of_ne_nil some
        obtain ⟨rfl, rfl⟩ := List.cons.inj split
        refine .inl ⟨before ++ c :: (taken ++ lead), by simp, fun v closing => ?_⟩
        rw [List.append_assoc, List.cons_append, List.append_assoc]
        exact .item (passes _) inner (reads v closing) (takes v closing)
      · simp only [List.append_eq_nil_iff] at nothing
        exact .inr ⟨nothing.2, by simp_all⟩
    · have inside := (readItem_suffix read).1.subset comment
      exact .inr ⟨nothing, by simp_all⟩

end EdgeAlert.Regex
