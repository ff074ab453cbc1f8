import EdgeAlert.Proofs.Regex.Locality

/-!
# How far brackets look

A bracket is read up to the bracket that closes it, and nothing behind that one matters. Inside, a
range looks ahead past its dash, and a class with a name is only known by the end of its name; both
stay before the closing bracket. The fuel never runs out if there is more of it than characters.
-/

namespace EdgeAlert.Regex

variable {spaced : Bool} {cs rest mid u : List Char} {c : Char}

/-! ### Members and ranges -/

theorem readMember_local {a : Atom} (reads : readMember spaced cs = some (a, rest))
    (member : a ≠ .assertion (.word .boundary)) :
    ∃ lead, cs = lead ++ rest ∧ lead ≠ [] ∧ Takes (readMember spaced) lead a := by
  unfold readMember at reads
  split at reads
  · simp at reads
  · next cs =>
    rcases readEscape_local reads with ⟨lead, rfl, -, takes⟩ | ⟨boundary, -, -⟩
    · exact ⟨'\\' :: lead, rfl, by simp, takes⟩
    · exact absurd boundary member
  · next c cs plain =>
    obtain ⟨rfl, rfl⟩ := Prod.mk.inj (Option.some.inj reads)
    refine ⟨[c], rfl, by simp, fun rest => ?_⟩
    simp [readMember]

theorem afterDash_closed (spaced : Bool) (mid u v : List Char) :
    afterDash spaced (mid ++ ']' :: u) = afterDash spaced (mid ++ ']' :: v) := by
  have head : ∀ mid rest : List Char, (mid ++ ']' :: rest).head? = some ((mid ++ [']']).head (by simp)) := by
    intro mid rest
    cases mid <;> rfl
  have dark : ∀ mid rest : List Char,
      (mid ++ ']' :: rest).dropWhile Text.isBlank = mid.dropWhile Text.isBlank ++ ']' :: rest := by
    intro mid rest
    rw [List.dropWhile_append]
    split
    · next nothing => rw [List.isEmpty_iff.mp nothing]; rfl
    · rfl
  unfold afterDash
  cases spaced with
  | false => simp only [Bool.false_eq_true, if_false, head]
  | true =>
    simp only [if_true, dark]
    cases mid.dropWhile Text.isBlank with
    | nil => rfl
    | cons c mid =>
      by_cases mark : c = '#'
      · subst mark
        simp only [List.cons_append, dark, head]
      · simp [mark]

theorem toBracketSet?_boundary {a : Atom} {set : BracketSet} (member : a.toBracketSet? = some set) :
    a ≠ .assertion (.word .boundary) := by
  rintro rfl
  simp [Atom.toBracketSet?] at member

theorem toLiteral?_boundary {a : Atom} {l : Literal} (literal : a.toLiteral? = some l) :
    a ≠ .assertion (.word .boundary) := by
  rintro rfl
  simp [Atom.toLiteral?] at literal

/-- A text up to a closing bracket starts with the same character whatever follows. -/
theorem exists_head (mid : List Char) : ∃ d, ∀ v, ∃ tail, mid ++ ']' :: v = d :: tail := by
  cases mid with
  | nil => exact ⟨']', fun v => ⟨v, rfl⟩⟩
  | cons d mid => exact ⟨d, fun v => ⟨mid ++ ']' :: v, rfl⟩⟩

theorem readRange_local {item : BracketSet} (reads : readRange spaced cs = some (item, mid ++ ']' :: u)) :
    ∃ lead, cs = lead ++ (mid ++ ']' :: u) ∧ lead ≠ [] ∧
      ∀ v, readRange spaced (lead ++ (mid ++ ']' :: v)) = some (item, mid ++ ']' :: v) := by
  unfold readRange at reads
  obtain ⟨⟨first, rest⟩, readFirst, reads⟩ := Option.bind_eq_some_iff.mp reads
  dsimp only at reads
  split at reads
  · simp at reads
  · next r skipped =>
    obtain ⟨before, rfl, passes⟩ := exists_skipped skipped
    split at reads
    · next stands =>
      obtain ⟨set, member, same⟩ := Option.bind_eq_some_iff.mp reads
      obtain ⟨rfl, split⟩ := Prod.mk.inj (Option.some.inj same)
      obtain ⟨lead, rfl, some, takes⟩ := readMember_local readFirst (toBracketSet?_boundary member)
      obtain ⟨mid, rfl, rfl⟩ : ∃ m, mid = '-' :: m ∧ r = m ++ ']' :: u := by
        cases mid with
        | nil => simp at split
        | cons d m =>
          obtain ⟨rfl, rest⟩ := List.cons.inj split
          exact ⟨m, rfl, rest⟩
      refine ⟨lead ++ before, by simp, by simp [some], fun v => ?_⟩
      rw [List.append_assoc, readRange, takes]
      simp only [List.cons_append, Option.bind_eq_bind, Option.bind_some, passes]
      rw [if_pos (by rwa [afterDash_closed spaced mid v u])]
      simp [member]
    · next range =>
      obtain ⟨⟨last, rest⟩, readLast, reads⟩ := Option.bind_eq_some_iff.mp reads
      obtain ⟨least, leastIs, reads⟩ := Option.bind_eq_some_iff.mp reads
      obtain ⟨greatest, greatestIs, reads⟩ := Option.bind_eq_some_iff.mp reads
      split at reads
      · next ordered =>
        obtain ⟨rfl, rfl⟩ := Prod.mk.inj (Option.some.inj reads)
        obtain ⟨lead, rfl, some, takes⟩ := readMember_local readFirst (toLiteral?_boundary leastIs)
        obtain ⟨more, split, someMore, takesMore⟩ := readMember_local readLast (toLiteral?_boundary greatestIs)
        obtain ⟨c, more, rfl⟩ := List.exists_cons_of_ne_nil someMore
        obtain ⟨inner, rfl, passesInner⟩ := exists_skipped split
        refine ⟨lead ++ before ++ '-' :: inner ++ c :: more, by simp, by simp [some], fun v => ?_⟩
        rw [List.append_assoc, List.append_assoc, List.append_assoc, readRange, takes]
        simp only [List.cons_append, Option.bind_eq_bind, Option.bind_some, passes]
        rw [if_neg]
        · simp only [passesInner]
          rw [← List.cons_append, takesMore]
          simp [leastIs, greatestIs, ordered]
        · have same := afterDash_closed spaced (inner ++ c :: more ++ mid) v u
          simp only [List.append_assoc, List.cons_append] at same
          rwa [same]
      · simp at reads
  · next undashed =>
    obtain ⟨set, member, same⟩ := Option.bind_eq_some_iff.mp reads
    obtain ⟨rfl, skipped⟩ := Prod.mk.inj (Option.some.inj same)
    obtain ⟨lead, rfl, some, takes⟩ := readMember_local readFirst (toBracketSet?_boundary member)
    obtain ⟨d, heads⟩ := exists_head mid
    obtain ⟨tail, here⟩ := heads u
    rw [here] at skipped ⊢
    obtain ⟨before, rfl, passes⟩ := exists_skipped skipped
    refine ⟨lead ++ before, by simp, by simp [some], fun v => ?_⟩
    obtain ⟨tail', there⟩ := heads v
    rw [there, List.append_assoc, readRange, takes]
    simp only [Option.bind_eq_bind, Option.bind_some, passes]
    split
    · next nothing => simp at nothing
    · next dash =>
      obtain rfl := (List.cons.inj dash).1
      exact absurd skipped (undashed tail)
    · simp [member]

/-! ### Classes with a name -/

theorem notMem_of_asciiClass? {name : String} {set : CharSet} (known : asciiClass? name = some set) :
    ']' ∉ name.toList := by
  unfold asciiClass? at known
  dsimp only at known
  split at known
  all_goals first | decide | simp at known

def caret : List Char → Bool × List Char
  | '^' :: rest => (true, rest)
  | rest => (false, rest)

theorem exists_caret (cs : List Char) : ∃ lead, cs = lead ++ (caret cs).2 ∧ ']' ∉ lead ∧
    ∀ other, other.head? = (caret cs).2.head? → caret (lead ++ other) = ((caret cs).1, other) := by
  unfold caret
  split
  · next rest => exact ⟨['^'], rfl, by simp, fun other _ => rfl⟩
  · next bare =>
    refine ⟨[], rfl, by simp, fun other same => ?_⟩
    split
    · next rest start =>
      rw [List.nil_append] at start
      obtain ⟨tail, rfl⟩ := List.head?_eq_some_iff.mp (same.symm.trans (congrArg List.head? start))
      exact absurd rfl (bare tail)
    · simp

theorem readAsciiClass_eq (inner : List Char) :
    readAsciiClass (':' :: inner) =
      let text := (caret inner).2
      let name := text.takeWhile (· ≠ ':')
      match text.drop name.length with
      | ':' :: ']' :: rest => (asciiClass? (String.ofList name)).map fun set =>
          (.named (.ascii set) (caret inner).1, rest)
      | _ => none := rfl

/-- The name of a class has no closing bracket in it, so the first one there is ends it. -/
theorem readAsciiClass_local {item : BracketSet} (reads : readAsciiClass cs = some (item, rest)) :
    ∃ lead, cs = lead ++ ']' :: rest ∧ ']' ∉ lead ∧
      ∀ v, readAsciiClass (lead ++ ']' :: v) = some (item, v) := by
  obtain ⟨inner, rfl⟩ : ∃ inner, cs = ':' :: inner := by
    unfold readAsciiClass at reads
    split at reads
    · exact ⟨_, rfl⟩
    · simp at reads
  obtain ⟨lead, whole, closed, opens⟩ := exists_caret inner
  rw [readAsciiClass_eq] at reads
  dsimp only at reads
  generalize (caret inner).1 = negated at reads opens
  generalize (caret inner).2 = text at reads opens whole
  split at reads
  · next after ends =>
    obtain ⟨set, known, same⟩ := Option.map_eq_some_iff.mp reads
    obtain ⟨rfl, rfl⟩ := Prod.mk.inj same
    obtain ⟨split, ended⟩ := takeWhile_ended ends
    generalize text.takeWhile (· ≠ ':') = name at known split ended
    refine ⟨':' :: lead ++ name ++ [':'], by simp [whole, split], ?_, fun v => ?_⟩
    · have := notMem_of_asciiClass? known
      simp_all
    · have here := opens (name ++ ':' :: ']' :: v) (by rw [split]; cases name <;> rfl)
      rw [List.append_assoc, List.append_assoc, List.cons_append, readAsciiClass_eq]
      simp only [List.cons_append, List.nil_append, here, ended, List.drop_left, known]
      rfl
  · simp at reads

theorem readAsciiClass_none (reads : readAsciiClass (mid ++ ']' :: u) = none) (v : List Char) :
    readAsciiClass (mid ++ ']' :: v) = none := by
  apply Option.eq_none_iff_forall_ne_some.mpr
  rintro ⟨item, rest⟩ found
  obtain ⟨lead, split, open_, takes⟩ := readAsciiClass_local found
  rcases List.append_eq_append_iff.mp split with ⟨more, rfl, there⟩ | ⟨more, rfl, there⟩
  · cases more with
    | nil =>
      have := takes u
      simp [reads] at this
    | cons c more =>
      obtain ⟨rfl, -⟩ := List.cons.inj there
      simp at open_
  · cases more with
    | nil =>
      have := takes u
      simp_all
    | cons c more =>
      obtain ⟨rfl, rfl⟩ := List.cons.inj there
      have := takes (more ++ ']' :: u)
      simp_all

/-! ### The start of a bracket -/

theorem readDashes_local {fuel : Nat} {dashes : List BracketSet} (enough : cs.length ≤ fuel)
    (reads : readDashes spaced fuel cs = (dashes, mid ++ ']' :: u)) :
    ∃ lead, cs = lead ++ (mid ++ ']' :: u) ∧ ∀ v fuel, (lead ++ (mid ++ ']' :: v)).length ≤ fuel →
      readDashes spaced fuel (lead ++ (mid ++ ']' :: v)) = (dashes, mid ++ ']' :: v) := by
  induction fuel generalizing cs dashes with
  | zero =>
    obtain rfl := List.length_eq_zero_iff.mp (Nat.le_zero.mp enough)
    simp [readDashes] at reads
  | succ fuel ih =>
    unfold readDashes at reads
    split at reads
    · next r skipped =>
      obtain ⟨before, rfl, passes⟩ := exists_skipped skipped
      obtain ⟨rfl, left⟩ := Prod.mk.inj reads
      have shorter : r.length ≤ fuel := by
        simp only [List.length_append, List.length_cons] at enough
        omega
      obtain ⟨lead, rfl, takes⟩ := ih shorter (Prod.ext rfl left)
      refine ⟨before ++ '-' :: lead, by simp, fun v fuel enough => ?_⟩
      obtain ⟨fuel, rfl⟩ : ∃ f, fuel = f + 1 := Nat.exists_eq_succ_of_ne_zero (by
        simp only [List.length_append, List.length_cons] at enough
        omega)
      have here := takes v fuel (by
        simp only [List.length_append, List.length_cons] at enough ⊢
        omega)
      rw [List.append_assoc, List.cons_append, readDashes, passes]
      simp [here]
    · next undashed =>
      obtain ⟨rfl, skipped⟩ := Prod.mk.inj reads
      obtain ⟨d, heads⟩ := exists_head mid
      obtain ⟨tail, here⟩ := heads u
      rw [here] at skipped ⊢
      obtain ⟨before, rfl, passes⟩ := exists_skipped skipped
      refine ⟨before, rfl, fun v fuel enough => ?_⟩
      obtain ⟨tail', there⟩ := heads v
      rw [there] at enough ⊢
      obtain ⟨fuel, rfl⟩ : ∃ f, fuel = f + 1 := Nat.exists_eq_succ_of_ne_zero (by
        simp only [List.length_append, List.length_cons] at enough
        omega)
      rw [readDashes, passes]
      split
      · next dash =>
        obtain ⟨rfl, -⟩ := List.cons.inj dash
        exact absurd skipped (undashed tail)
      · rfl

def opened (spaced : Bool) (cs : List Char) : Bool × List BracketSet × List Char :=
  let start := caret (skip spaced cs)
  (start.1, readDashes spaced start.2.length start.2)

theorem readOpening_eq (spaced : Bool) (cs : List Char) :
    readOpening spaced cs = match (opened spaced cs).2 with
      | ([], ']' :: rest) => ((opened spaced cs).1, [.literal { char := ']' }], rest)
      | (dashes, rest) => ((opened spaced cs).1, dashes, rest) := rfl

theorem opened_local {negated : Bool} {dashes : List BracketSet}
    (reads : opened spaced cs = (negated, dashes, mid ++ ']' :: u)) :
    ∃ lead, cs = lead ++ (mid ++ ']' :: u) ∧
      ∀ v, opened spaced (lead ++ (mid ++ ']' :: v)) = (negated, dashes, mid ++ ']' :: v) := by
  obtain ⟨rfl, dashed⟩ := Prod.mk.inj reads
  obtain ⟨lead, whole, -, starts⟩ := exists_caret (skip spaced cs)
  obtain ⟨more, rest, takes⟩ := readDashes_local (Nat.le_refl _) dashed
  have skipped : skip spaced cs = (lead ++ more ++ mid) ++ ']' :: u := by
    rw [whole, rest]
    simp
  obtain ⟨c, heads⟩ := exists_head (lead ++ more ++ mid)
  obtain ⟨d, restHeads⟩ := exists_head (more ++ mid)
  obtain ⟨tail, here⟩ := heads u
  obtain ⟨before, split, passes⟩ := exists_skipped (skipped.trans here)
  refine ⟨before ++ lead ++ more, by rw [split, ← here]; simp, fun v => ?_⟩
  obtain ⟨tail', there⟩ := heads v
  have skips : skip spaced (before ++ lead ++ more ++ (mid ++ ']' :: v)) = lead ++ (more ++ (mid ++ ']' :: v)) := by
    have same : lead ++ (more ++ (mid ++ ']' :: v)) = c :: tail' := by
      rw [← there]
      simp
    rw [List.append_assoc, List.append_assoc, same, passes]
  have start := starts (more ++ (mid ++ ']' :: v)) (by
    obtain ⟨_, one⟩ := restHeads u
    obtain ⟨_, two⟩ := restHeads v
    rw [rest, ← List.append_assoc, ← List.append_assoc, one, two]
    rfl)
  simp only [opened, skips, start, takes v _ (Nat.le_refl _)]

theorem readOpening_local {negated : Bool} {inside : List BracketSet}
    (reads : readOpening spaced cs = (negated, inside, mid ++ ']' :: u)) :
    ∃ lead, cs = lead ++ (mid ++ ']' :: u) ∧
      ∀ v, readOpening spaced (lead ++ (mid ++ ']' :: v)) = (negated, inside, mid ++ ']' :: v) := by
  rw [readOpening_eq] at reads
  split at reads
  · next rest opens =>
    obtain ⟨rfl, rfl, rfl⟩ : _ ∧ _ ∧ _ := by simpa only [Prod.mk.injEq] using reads
    have stands : opened spaced cs = (_, [], [] ++ ']' :: (mid ++ ']' :: u)) := Prod.ext rfl opens
    obtain ⟨lead, rfl, takes⟩ := opened_local stands
    refine ⟨lead ++ [']'], by simp, fun v => ?_⟩
    have here := takes (mid ++ ']' :: v)
    simp only [List.nil_append] at here
    rw [List.append_assoc, List.singleton_append, readOpening_eq, here]
    rfl
  · next dashes rest bare opens =>
    obtain ⟨rfl, rfl, rfl⟩ : _ ∧ _ ∧ _ := by simpa only [Prod.mk.injEq] using reads
    obtain ⟨lead, rfl, takes⟩ := opened_local (Prod.ext rfl opens)
    refine ⟨lead, rfl, fun v => ?_⟩
    rw [readOpening_eq, takes v]
    dsimp only
    split
    · next r same =>
      obtain ⟨rfl, closed⟩ := Prod.mk.inj same
      cases mid with
      | nil => exact (bare u rfl rfl).elim
      | cons d mid =>
        obtain ⟨rfl, -⟩ := List.cons.inj closed
        exact (bare (mid ++ ']' :: u) rfl rfl).elim
    · next same =>
      obtain ⟨rfl, rfl⟩ := Prod.mk.inj same
      rfl

/-! ### Brackets -/

theorem readSet_item {d : Char} {fuel : Nat} {left : Option (SetOperator × BracketSet)}
    {items : List BracketSet} (skipped : skip spaced cs = c :: d :: rest) (open_ : c ≠ ']') (single : c ≠ '[')
    (pair : c = d → c ≠ '&' ∧ c ≠ '-' ∧ c ≠ '~') :
    readSet spaced (fuel + 1) left items cs =
      (readRange spaced (c :: d :: rest)).bind fun p => readSet spaced fuel left (p.1 :: items) p.2 := by
  rw [readSet, skipped]
  split <;> simp_all
  split <;> simp_all

/-- A bracket is read up to the bracket that closes it, with any fuel that its length allows. -/
theorem readSet_local {fuel : Nat} {left : Option (SetOperator × BracketSet)} {items : List BracketSet}
    {set : BracketSet} (reads : readSet spaced fuel left items cs = some (set, rest)) :
    ∃ lead, cs = lead ++ ']' :: rest ∧ ∀ v fuel, (lead ++ ']' :: v).length < fuel →
      readSet spaced fuel left items (lead ++ ']' :: v) = some (set, v) := by
  induction fuel generalizing cs left items set rest with
  | zero => simp [readSet] at reads
  | succ fuel ih =>
    -- A step that reads `pre` and goes on with `r` leaves the same to be shown for `r`.
    have further : ∀ pre r left' items', cs = pre ++ r → pre ≠ [] →
        (∀ lead v fuel, r = lead ++ ']' :: rest → (pre ++ (lead ++ ']' :: v)).length < fuel + 1 →
          readSet spaced (fuel + 1) left items (pre ++ (lead ++ ']' :: v)) =
            readSet spaced fuel left' items' (lead ++ ']' :: v)) →
        readSet spaced fuel left' items' r = some (set, rest) →
        ∃ lead, cs = lead ++ ']' :: rest ∧ ∀ v fuel, (lead ++ ']' :: v).length < fuel →
          readSet spaced fuel left items (lead ++ ']' :: v) = some (set, v) := by
      intro pre r left' items' split some same reads
      obtain ⟨lead, rfl, takes⟩ := ih reads
      refine ⟨pre ++ lead, by simp [split], fun v fuel enough => ?_⟩
      rw [List.append_assoc] at enough ⊢
      have := List.length_pos_iff.mpr some
      obtain ⟨fuel, rfl⟩ : ∃ f, fuel = f + 1 := Nat.exists_eq_succ_of_ne_zero (by omega)
      rw [same lead v fuel rfl enough]
      refine takes v fuel ?_
      rw [List.length_append] at enough
      omega
    unfold readSet at reads
    split at reads
    · simp at reads
    · next r skipped =>
      obtain ⟨rfl, rfl⟩ := Prod.mk.inj (Option.some.inj reads)
      obtain ⟨before, rfl, passes⟩ := exists_skipped skipped
      refine ⟨before, rfl, fun v fuel enough => ?_⟩
      obtain ⟨fuel, rfl⟩ : ∃ f, fuel = f + 1 := Nat.exists_eq_succ_of_ne_zero (by omega)
      rw [readSet, passes]
      rfl
    · next r skipped =>
      obtain ⟨before, rfl, passes⟩ := exists_skipped skipped
      refine further (before ++ ['&', '&']) r _ _ (by simp) (by simp) (fun lead v fuel _ _ => ?_) reads
      rw [List.append_assoc, readSet]
      simp [passes]
    · next r skipped =>
      obtain ⟨before, rfl, passes⟩ := exists_skipped skipped
      refine further (before ++ ['-', '-']) r _ _ (by simp) (by simp) (fun lead v fuel _ _ => ?_) reads
      rw [List.append_assoc, readSet]
      simp [passes]
    · next r skipped =>
      obtain ⟨before, rfl, passes⟩ := exists_skipped skipped
      refine further (before ++ ['~', '~']) r _ _ (by simp) (by simp) (fun lead v fuel _ _ => ?_) reads
      rw [List.append_assoc, readSet]
      simp [passes]
    · next r skipped =>
      obtain ⟨before, rfl, passes⟩ := exists_skipped skipped
      split at reads
      · next item r named =>
        obtain ⟨lead, rfl, -, takes⟩ := readAsciiClass_local named
        refine further (before ++ '[' :: lead ++ [']']) r _ _ (by simp) (by simp) (fun lead v fuel _ _ => ?_) reads
        rw [List.append_assoc, List.append_assoc, readSet]
        simp [passes, takes]
      · next unnamed =>
        dsimp only at reads
        generalize opens : readOpening spaced r = start at reads
        obtain ⟨negated, inside, r'⟩ := start
        dsimp only at reads
        split at reads
        · next inner r'' nested =>
          obtain ⟨lead, rfl, takes⟩ := ih nested
          obtain ⟨first, rfl, starts⟩ := readOpening_local opens
          rw [← List.append_assoc] at unnamed
          refine further (before ++ '[' :: first ++ lead ++ [']']) r'' _ _ (by simp) (by simp)
            (fun more v fuel _ enough => ?_) reads
          have none := readAsciiClass_none unnamed (more ++ ']' :: v)
          have opening := starts (more ++ ']' :: v)
          have reading := takes (more ++ ']' :: v) fuel (by
            simp only [List.length_append, List.length_cons] at enough ⊢
            omega)
          simp only [List.append_assoc, List.cons_append, List.nil_append] at none opening reading ⊢
          rw [readSet, passes]
          simp only [none, opening, reading]
        · simp at reads
    · next closed intersection difference symmetric nested =>
      split at reads
      · next item r range =>
        obtain ⟨more, rfl, -⟩ := ih reads
        obtain ⟨lead, split, some, takes⟩ := readRange_local range
        obtain ⟨c, lead, rfl⟩ := List.exists_cons_of_ne_nil some
        obtain ⟨before, rfl, passes⟩ := exists_skipped split
        obtain ⟨d, heads⟩ := exists_head (lead ++ more)
        obtain ⟨tail, here⟩ := heads rest
        have skipped : skip spaced (before ++ c :: (lead ++ (more ++ ']' :: rest))) = c :: d :: tail := by
          rw [passes, ← List.append_assoc, here]
        refine further (before ++ c :: lead) (more ++ ']' :: rest) _ _ (by simp) (by simp)
          (fun same v fuel whole _ => ?_) reads
        obtain rfl := List.append_cancel_right whole
        obtain ⟨tail', there⟩ := heads v
        have skips : skip spaced (before ++ c :: lead ++ (more ++ ']' :: v)) = c :: d :: tail' := by
          rw [List.append_assoc, List.cons_append, passes, ← List.append_assoc, there]
        have reading := takes v
        rw [List.cons_append, ← List.append_assoc, there] at reading
        rw [readSet_item skips, reading]
        · rfl
        · rintro rfl
          exact closed _ skipped
        · rintro rfl
          exact nested _ skipped
        · rintro rfl
          refine ⟨?_, ?_, ?_⟩
          · rintro rfl
            exact intersection _ skipped
          · rintro rfl
            exact difference _ skipped
          · rintro rfl
            exact symmetric _ skipped
      · simp at reads

/-- A bracket is decided by what it takes. -/
theorem readBracket_local (spaced : Bool) : Local (readBracket spaced) := by
  intro cs t rest reads
  unfold readBracket at reads
  generalize opens : readOpening spaced cs = start at reads
  obtain ⟨negated, inside, inner⟩ := start
  obtain ⟨⟨set, rest⟩, read, same⟩ := Option.map_eq_some_iff.mp reads
  obtain ⟨rfl, rfl⟩ := Prod.mk.inj same
  obtain ⟨lead, rfl, takes⟩ := readSet_local read
  obtain ⟨first, rfl, starts⟩ := readOpening_local opens
  refine ⟨first ++ lead ++ [']'], by simp, fun v => ?_⟩
  have reading := takes v _ (Nat.lt_succ_self _)
  simp only [List.append_assoc, List.singleton_append, readBracket, starts v]
  rw [reading]
  rfl

end EdgeAlert.Regex
