import EdgeAlert.Pattern.Numeric
import EdgeAlert.Proofs.Text.Fields
import EdgeAlert.Proofs.Text.Utf8

/-!
# The grammar of numeric patterns

`NumericPattern.Reads` says what a text is read as: one rule for each form of a pattern and one for each
fault, each fault where those looked for before it are not. `parse_classifies`: this is what the parser
makes of every text, and the inside of a range is what its bytes are without the first and the last.
-/

namespace EdgeAlert

namespace Number

def FirstUnread (fields : List (List Char)) (field : List Char) : Prop :=
  ∃ before after, fields = before ++ field :: after ∧
    (∀ good ∈ before, ∃ number, readLiteral good = .ok number) ∧
    ∀ number, readLiteral field ≠ .ok number

def AllRead (fields : List (List Char)) (literals : List Number) : Prop :=
  List.Forall₂ (fun field number => readLiteral field = .ok number) fields literals

variable {field : List Char} {fields : List (List Char)} {literals : List Number} {number : Number}

theorem readLiteral_unread (unread : ∀ number, readLiteral field ≠ .ok number) :
    readLiteral field = .error (.invalidNumber (String.ofList (Text.trim field))) := by
  unfold readLiteral at unread ⊢
  dsimp only at unread ⊢
  split
  · rename_i number found
    rw [found] at unread
    exact absurd rfl (unread number)
  · rfl

theorem FirstUnread.cons (good : readLiteral field = .ok number) {bad : List Char}
    (first : FirstUnread fields bad) : FirstUnread (field :: fields) bad := by
  obtain ⟨before, after, rfl, read, unread⟩ := first
  exact ⟨field :: before, after, rfl, List.forall_mem_cons.mpr ⟨⟨number, good⟩, read⟩, unread⟩

theorem mapM_cons_of_ok (good : readLiteral field = .ok number) :
    (field :: fields).mapM readLiteral = (fields.mapM readLiteral).map (number :: ·) := by
  rw [List.mapM_cons, good]
  cases fields.mapM readLiteral <;> rfl

theorem mapM_of_allRead (read : AllRead fields literals) : fields.mapM readLiteral = .ok literals := by
  induction read with
  | nil => rfl
  | cons good _ ih =>
    rw [mapM_cons_of_ok good, ih]
    rfl

theorem mapM_of_firstUnread (first : FirstUnread fields field) :
    fields.mapM readLiteral = .error (.invalidNumber (String.ofList (Text.trim field))) := by
  obtain ⟨before, after, rfl, read, unread⟩ := first
  induction before with
  | nil =>
    rw [List.nil_append, List.mapM_cons, readLiteral_unread unread]
    rfl
  | cons good before ih =>
    obtain ⟨⟨number, here⟩, others⟩ := List.forall_mem_cons.mp read
    rw [List.cons_append, mapM_cons_of_ok here, ih others]
    rfl

/-- Either all fields are numbers, or one of them is the first that is none. -/
theorem allRead_or_firstUnread (fields : List (List Char)) :
    (∃ literals, AllRead fields literals) ∨ ∃ field, FirstUnread fields field := by
  induction fields with
  | nil => exact Or.inl ⟨[], .nil⟩
  | cons field fields ih =>
    by_cases good : ∃ number, readLiteral field = .ok number
    · obtain ⟨number, good⟩ := good
      rcases ih with ⟨literals, read⟩ | ⟨bad, first⟩
      · exact Or.inl ⟨number :: literals, .cons good read⟩
      · exact Or.inr ⟨bad, first.cons good⟩
    · have unread : ∀ number, readLiteral field ≠ .ok number := fun number same => good ⟨number, same⟩
      exact Or.inr ⟨field, [], fields, rfl, by simp, unread⟩

end Number

namespace NumericPattern

open Number Text

/-! ### Brackets -/

def openBracket (included : Bool) : Char := if included then '[' else '('

def closeBracket (included : Bool) : Char := if included then ']' else ')'

/-- The body of a range with this inside, its bounds included or not. -/
def bracketed (minIncluded : Bool) (inner : List Char) (maxIncluded : Bool) : List Char :=
  openBracket minIncluded :: (inner ++ [closeBracket maxIncluded])

variable {c : Char} {body inner : List Char} {included minIncluded maxIncluded : Bool}

theorem opening?_eq_some_iff : opening? c = some included ↔ c = openBracket included := by
  unfold opening?
  split <;> cases included <;> simp_all [openBracket]

theorem closing?_eq_some_iff : closing? c = some included ↔ c = closeBracket included := by
  unfold closing?
  split <;> cases included <;> simp_all [closeBracket]

theorem unwrap?_bracketed :
    unwrap? (bracketed minIncluded inner maxIncluded) = some (minIncluded, inner, maxIncluded) := by
  have opened : opening? (openBracket minIncluded) = some minIncluded := opening?_eq_some_iff.mpr rfl
  have closed : closing? (closeBracket maxIncluded) = some maxIncluded := closing?_eq_some_iff.mpr rfl
  simp [unwrap?, bracketed, opened, closed]

theorem unwrap?_eq_some_iff :
    unwrap? body = some (minIncluded, inner, maxIncluded) ↔ body = bracketed minIncluded inner maxIncluded := by
  constructor
  · intro found
    cases body with
    | nil => cases found
    | cons first rest =>
      obtain ⟨opened, opens, found⟩ := Option.bind_eq_some_iff.mp found
      obtain ⟨last, ends, found⟩ := Option.bind_eq_some_iff.mp found
      obtain ⟨closed, closes, found⟩ := Option.bind_eq_some_iff.mp found
      obtain ⟨rfl, rfl, rfl⟩ : opened = minIncluded ∧ rest.dropLast = inner ∧ closed = maxIncluded := by
        simpa using found
      obtain ⟨front, rfl⟩ := List.getLast?_eq_some_iff.mp ends
      rw [opening?_eq_some_iff.mp opens, closing?_eq_some_iff.mp closes, bracketed, List.dropLast_concat]
  · rintro rfl
    exact unwrap?_bracketed

theorem unwrap?_eq_none_iff :
    unwrap? body = none ↔ ∀ minIncluded inner maxIncluded, body ≠ bracketed minIncluded inner maxIncluded := by
  constructor
  · intro none minIncluded inner maxIncluded here
    rw [here, unwrap?_bracketed] at none
    cases none
  · intro unwrapped
    cases found : unwrap? body with
    | none => rfl
    | some parts => exact absurd (unwrap?_eq_some_iff.mp found) (unwrapped _ _ _)

/-- Brackets are single bytes, so a byte taken off both ends of a body takes off the brackets. -/
theorem bytes_inside (bracketed : unwrap? body = some (minIncluded, inner, maxIncluded)) :
    Text.ofUtf8? ((String.ofList body).toUTF8.toList.drop 1).dropLast = some (String.ofList inner) := by
  have opens : (String.utf8EncodeChar (openBracket minIncluded)).length = 1 := by
    cases minIncluded <;> decide
  have closes : (String.utf8EncodeChar (closeBracket maxIncluded)).length = 1 := by
    cases maxIncluded <;> decide
  obtain ⟨first, opens⟩ := List.length_eq_one_iff.mp opens
  obtain ⟨last, closes⟩ := List.length_eq_one_iff.mp closes
  rw [unwrap?_eq_some_iff.mp bracketed, bytes_eq, String.toList_ofList, NumericPattern.bracketed,
    List.flatMap_cons, List.flatMap_append, List.flatMap_cons, List.flatMap_nil, opens, closes,
    List.singleton_append, List.drop_one, List.tail_cons, List.append_nil, List.dropLast_concat,
    ← ofUtf8?_toUTF8, bytes_eq, String.toList_ofList]

/-! ### The grammar -/

def leads : List String := ["range:", "equal:", "notequal:"]

inductive Reads : String → Except PatternError NumericPattern → Prop where
  | range {minIncluded maxIncluded : Bool} {inner first second : List Char} {min max : Number}
    (bounds : Fielded inner [first, second])
    (readMin : readLiteral first = .ok min) (readMax : readLiteral second = .ok max) :
    Reads ("range:" ++ String.ofList (bracketed minIncluded inner maxIncluded))
      (.ok (.range min minIncluded max maxIncluded))
  | equal {body : List Char} {fields : List (List Char)} {literals : List Number}
    (fielded : Fielded body fields) (read : AllRead fields literals) :
    Reads ("equal:" ++ String.ofList body) (.ok (.equal literals))
  | notEqual {body : List Char} {fields : List (List Char)} {literals : List Number}
    (fielded : Fielded body fields) (read : AllRead fields literals) :
    Reads ("notequal:" ++ String.ofList body) (.ok (.notEqual literals))
  | unknown {text : String} (unled : ∀ lead ∈ leads, ∀ rest, text ≠ lead ++ rest) :
    Reads text (.error (.unknownPattern text))
  /-- The first character is no opening bracket, the last is no closing one, or there are not two. -/
  | brackets {body : List Char}
    (unwrapped : ∀ minIncluded inner maxIncluded, body ≠ bracketed minIncluded inner maxIncluded) :
    Reads ("range:" ++ String.ofList body) (.error (.rangeBrackets (String.ofList body)))
  | arity {minIncluded maxIncluded : Bool} {inner : List Char} {fields : List (List Char)}
    (fielded : Fielded inner fields) (notTwo : fields.length ≠ 2) :
    Reads ("range:" ++ String.ofList (bracketed minIncluded inner maxIncluded))
      (.error (.rangeArity (String.ofList inner)))
  /-- There are two bounds, but one of them is no number. -/
  | bound {minIncluded maxIncluded : Bool} {inner field : List Char} {fields : List (List Char)}
    (fielded : Fielded inner fields) (two : fields.length = 2) (unread : FirstUnread fields field) :
    Reads ("range:" ++ String.ofList (bracketed minIncluded inner maxIncluded))
      (.error (.invalidNumber (String.ofList (trim field))))
  | literal {lead : String} {body field : List Char} {fields : List (List Char)}
    (listed : lead ∈ ["equal:", "notequal:"]) (fielded : Fielded body fields)
    (unread : FirstUnread fields field) :
    Reads (lead ++ String.ofList body) (.error (.invalidNumber (String.ofList (trim field))))

/-! ### What the parser makes of each kind of text -/

theorem after?_lead (lead : String) (body : List Char) :
    after? lead.toList (lead ++ String.ofList body).toList = some body := by
  rw [after?_eq_some_iff, String.toList_append, String.toList_ofList]

theorem parse_range (body : List Char) : parse ("range:" ++ String.ofList body) = parseRange body := by
  unfold parse
  dsimp only
  rw [after?_lead]

theorem parse_equal (body : List Char) :
    parse ("equal:" ++ String.ofList body) = (parseLiterals body).map .equal := by
  have other : after? "range:".toList ("equal:" ++ String.ofList body).toList = none := by
    rw [String.toList_append]
    rfl
  unfold parse
  dsimp only
  rw [other, after?_lead]

theorem parse_notEqual (body : List Char) :
    parse ("notequal:" ++ String.ofList body) = (parseLiterals body).map .notEqual := by
  have others : after? "range:".toList ("notequal:" ++ String.ofList body).toList = none ∧
      after? "equal:".toList ("notequal:" ++ String.ofList body).toList = none := by
    rw [String.toList_append]
    exact ⟨rfl, rfl⟩
  unfold parse
  dsimp only
  rw [others.1, others.2, after?_lead]

theorem parse_unknown {text : String} (unled : ∀ lead ∈ leads, ∀ rest, text ≠ lead ++ rest) :
    parse text = .error (.unknownPattern text) := by
  have none : ∀ lead ∈ leads, after? lead.toList text.toList = none := by
    intro lead known
    refine Option.eq_none_iff_forall_ne_some.mpr fun rest after => ?_
    refine unled lead known (String.ofList rest) (String.toList_inj.mp ?_)
    rw [String.toList_append, String.toList_ofList]
    exact after?_eq_some_iff.mp after
  unfold parse
  dsimp only
  rw [none "range:" (by decide), none "equal:" (by decide), none "notequal:" (by decide)]

theorem led_or_not (text : String) :
    (∃ lead ∈ leads, ∃ body, text = lead ++ String.ofList body) ∨
      ∀ lead ∈ leads, ∀ rest, text ≠ lead ++ rest := by
  by_cases led : ∃ lead ∈ leads, ∃ rest, text = lead ++ rest
  · obtain ⟨lead, known, rest, rfl⟩ := led
    exact Or.inl ⟨lead, known, rest.toList, by rw [String.ofList_toList]⟩
  · exact Or.inr fun lead known rest same => led ⟨lead, known, rest, same⟩

theorem parseRange_wrapped {fields : List (List Char)} (fielded : Fielded inner fields)
    (two : fields.length = 2) :
    parseRange (bracketed minIncluded inner maxIncluded) =
      (fields.mapM readLiteral).bind fun
        | [min, max] => .ok (.range min minIncluded max maxIncluded)
        | _ => .error (.rangeArity (String.ofList inner)) := by
  obtain ⟨first, second, rfl⟩ := List.length_eq_two.mp two
  unfold parseRange
  rw [unwrap?_bracketed]
  dsimp only
  rw [fielded_iff.mp fielded]
  simp only [List.mapM_cons, List.mapM_nil]
  cases readLiteral first with
  | error fault => rfl
  | ok min => cases readLiteral second <;> rfl

theorem parseRange_arity {fields : List (List Char)} (fielded : Fielded inner fields)
    (notTwo : fields.length ≠ 2) :
    parseRange (bracketed minIncluded inner maxIncluded) = .error (.rangeArity (String.ofList inner)) := by
  unfold parseRange
  rw [unwrap?_bracketed]
  dsimp only
  rw [fielded_iff.mp fielded]
  split
  · exact absurd rfl notTwo
  · rfl

/-! ### Both directions -/

theorem parse_of_reads {text : String} {outcome : Except PatternError NumericPattern}
    (reads : Reads text outcome) : parse text = outcome := by
  cases reads with
  | range bounds readMin readMax =>
    have read : AllRead [_, _] [_, _] := .cons readMin (.cons readMax .nil)
    rw [parse_range, parseRange_wrapped bounds rfl, mapM_of_allRead read]
    rfl
  | equal fielded read =>
    rw [parse_equal, parseLiterals, fielded_iff.mp fielded, mapM_of_allRead read]
    rfl
  | notEqual fielded read =>
    rw [parse_notEqual, parseLiterals, fielded_iff.mp fielded, mapM_of_allRead read]
    rfl
  | unknown unled => exact parse_unknown unled
  | brackets unwrapped =>
    rw [parse_range, parseRange, unwrap?_eq_none_iff.mpr unwrapped]
  | arity fielded notTwo => rw [parse_range, parseRange_arity fielded notTwo]
  | bound fielded two unread =>
    rw [parse_range, parseRange_wrapped fielded two, mapM_of_firstUnread unread]
    rfl
  | literal listed fielded unread =>
    rcases List.mem_pair.mp listed with rfl | rfl
    · rw [parse_equal, parseLiterals, fielded_iff.mp fielded, mapM_of_firstUnread unread]
      rfl
    · rw [parse_notEqual, parseLiterals, fielded_iff.mp fielded, mapM_of_firstUnread unread]
      rfl

theorem exists_reads_range (body : List Char) :
    ∃ outcome, Reads ("range:" ++ String.ofList body) outcome := by
  cases wrapped : unwrap? body with
  | none => exact ⟨_, .brackets (unwrap?_eq_none_iff.mp wrapped)⟩
  | some parts =>
    obtain ⟨minIncluded, inner, maxIncluded⟩ := parts
    rw [unwrap?_eq_some_iff.mp wrapped]
    have fielded := fielded_fields inner
    by_cases two : (fields inner).length = 2
    · rcases allRead_or_firstUnread (fields inner) with ⟨literals, read⟩ | ⟨field, unread⟩
      · obtain ⟨first, second, pair⟩ := List.length_eq_two.mp two
        rw [pair] at fielded read
        cases read with
        | cons readMin rest =>
          cases rest with
          | cons readMax _ => exact ⟨_, .range fielded readMin readMax⟩
      · exact ⟨_, .bound fielded two unread⟩
    · exact ⟨_, .arity fielded two⟩

theorem exists_reads (text : String) : ∃ outcome, Reads text outcome := by
  rcases led_or_not text with ⟨lead, known, body, rfl⟩ | unled
  · have fielded := fielded_fields body
    rcases List.mem_cons.mp known with rfl | listed
    · exact exists_reads_range body
    · rcases allRead_or_firstUnread (fields body) with ⟨literals, read⟩ | ⟨field, unread⟩
      · rcases List.mem_pair.mp listed with rfl | rfl
        · exact ⟨_, .equal fielded read⟩
        · exact ⟨_, .notEqual fielded read⟩
      · exact ⟨_, .literal listed fielded unread⟩
  · exact ⟨_, .unknown unled⟩

/-- Every text is read as the grammar says, or as the fault that comes first. -/
theorem parse_classifies (text : String) :
    (∀ outcome, parse text = outcome ↔ Reads text outcome) ∧
      ∀ body minIncluded inner maxIncluded, unwrap? body = some (minIncluded, inner, maxIncluded) →
        Text.ofUtf8? ((String.ofList body).toUTF8.toList.drop 1).dropLast =
          some (String.ofList inner) := by
  refine ⟨fun outcome => ⟨?_, parse_of_reads⟩, fun _ _ _ _ => bytes_inside⟩
  rintro rfl
  obtain ⟨outcome, reads⟩ := exists_reads text
  rw [parse_of_reads reads]
  exact reads

/-- The inside of a range holds a character of three bytes, so its first bound is no number. -/
theorem range_of_euros :
    let body := "[€5,9,)".toList
    let inner := "€5,9,".toList
    let half : Number := .double (.ofRatio .double false 1 2)
    parse "range:[€5,9,)" = .error (.invalidNumber "€5") ∧
      Reads "range:[€5,9,)" (.error (.invalidNumber "€5")) ∧ unwrap? body = some (true, inner, false) ∧
      Text.ofUtf8? ((String.ofList body).toUTF8.toList.drop 1).dropLast = some (String.ofList inner) ∧
      parse "notequal:-7, 0.5," = .ok (.notEqual [.int (-7), half]) ∧
      Reads "notequal:-7, 0.5," (.ok (.notEqual [.int (-7), half])) := by
  intro body inner half
  obtain ⟨classified, inside⟩ := parse_classifies "range:[€5,9,)"
  have read : parse "range:[€5,9,)" = .error (.invalidNumber "€5") := by decide +kernel
  have unwrapped : unwrap? body = some (true, inner, false) := by decide +kernel
  have list : parse "notequal:-7, 0.5," = .ok (.notEqual [.int (-7), half]) := by decide +kernel
  exact ⟨read, (classified _).mp read, unwrapped, inside body true inner false unwrapped, list,
    ((parse_classifies _).1 _).mp list⟩

end NumericPattern
end EdgeAlert
