import EdgeAlert.Text.Lines

/-!
# Texts in bytes

The bytes of a text in UTF-8 are read as that text. A byte below 128 stands for a character of its own
wherever it stands, so bytes can be cut there: the whole is a text exactly if both parts are.
-/

namespace EdgeAlert.Text

theorem toList_loop (bytes : ByteArray) (place : Nat) (passed : List UInt8) :
    ByteArray.toList.loop bytes place passed = passed.reverse ++ bytes.data.toList.drop place := by
  induction place, passed using ByteArray.toList.loop.induct bytes with
  | case1 place passed inside ih =>
    have bound : place < bytes.data.toList.length := inside
    have here : bytes.get! place = bytes.data.toList[place] := getElem!_pos bytes.data place inside
    rw [ByteArray.toList.loop, if_pos inside, ih, List.drop_eq_getElem_cons bound, here]
    simp
  | case2 place passed outside =>
    have bound : bytes.data.toList.length ≤ place := Nat.le_of_not_lt outside
    rw [ByteArray.toList.loop, if_neg outside, List.drop_eq_nil_of_le bound, List.append_nil]

theorem toList_bytes (bytes : ByteArray) : bytes.toList = bytes.data.toList := by
  rw [ByteArray.toList, toList_loop]
  rfl

theorem bytes_eq (text : String) :
    text.toUTF8.toList = text.toList.flatMap String.utf8EncodeChar := by
  rw [toList_bytes, String.toUTF8_eq_toByteArray, ← String.utf8Encode_toList, List.utf8Encode,
    List.toList_data_toByteArray]

theorem ofUtf8?_toUTF8 (text : String) : ofUtf8? text.toUTF8.toList = some text := by
  unfold ofUtf8? String.fromUTF8?
  have same : (⟨text.toUTF8.toList.toArray⟩ : ByteArray) = text.toUTF8 := by
    rw [toList_bytes, Array.toArray_toList]
  rw [same, String.toUTF8_eq_toByteArray, dif_pos text.isValidUTF8]
  rfl

/-! ### Cutting at a byte below 128 -/

variable {bytes front rest : List UInt8} {b : UInt8}

theorem isSome_ofUtf8?_iff :
    (ofUtf8? bytes).isSome = true ↔ ∃ cs : List Char, cs.flatMap String.utf8EncodeChar = bytes := by
  have valid : (ofUtf8? bytes).isSome = true ↔ (ByteArray.mk bytes.toArray).IsValidUTF8 := by
    unfold ofUtf8? String.fromUTF8?
    split <;> simp [*]
  rw [valid]
  constructor
  · rintro ⟨cs, same⟩
    have data := congrArg (fun array : ByteArray => array.data.toList) same
    dsimp only at data
    rw [List.utf8Encode, List.toList_data_toByteArray] at data
    exact ⟨cs, data.symm⟩
  · rintro ⟨cs, rfl⟩
    refine ⟨cs, ByteArray.ext ?_⟩
    rw [List.utf8Encode, List.data_toByteArray]

theorem encode_eq_of_ascii {c : Char} (ascii : b.toNat < 128)
    (member : b ∈ String.utf8EncodeChar c) : String.utf8EncodeChar c = [b] := by
  have high : ∀ n : Nat, 128 ≤ n → n < 256 → b ≠ UInt8.ofNat n := by
    rintro n low bound rfl
    rw [UInt8.toNat_ofNat', Nat.mod_eq_of_lt bound] at ascii
    omega
  unfold String.utf8EncodeChar at member ⊢
  dsimp only at member ⊢
  split at member
  · rename_i single
    rw [if_pos single, List.mem_singleton.mp member]
  · -- All bytes of a longer encoding have their highest bit set.
    split at member
    · simp only [List.mem_cons, List.not_mem_nil, or_false] at member
      rcases member with same | same
      all_goals exact absurd same (high _ (by omega) (by omega))
    · split at member
      · simp only [List.mem_cons, List.not_mem_nil, or_false] at member
        rcases member with same | same | same
        all_goals exact absurd same (high _ (by omega) (by omega))
      · simp only [List.mem_cons, List.not_mem_nil, or_false] at member
        rcases member with same | same | same | same
        all_goals exact absurd same (high _ (by omega) (by omega))

theorem le_of_mem_encode {n : Nat} {c : Char} (low : n ≤ 128) (bound : n ≤ c.toNat)
    (member : b ∈ String.utf8EncodeChar c) : n ≤ b.toNat := by
  rcases Nat.lt_or_ge b.toNat 128 with ascii | high
  · have single := encode_eq_of_ascii ascii member
    unfold String.utf8EncodeChar at single
    dsimp only at single
    split at single
    · rename_i small
      have code : c.val.toNat < 256 := by omega
      rw [← (List.cons.inj single).1, UInt8.toNat_ofNat', Nat.mod_eq_of_lt code]
      exact bound
    · split at single
      · cases single
      · split at single <;> cases single
  · exact Nat.le_trans low high

theorem encoded_cut (ascii : b.toNat < 128) {cs : List Char}
    (same : cs.flatMap String.utf8EncodeChar = front ++ b :: rest) :
    (∃ first : List Char, first.flatMap String.utf8EncodeChar = front) ∧
      ∃ second : List Char, second.flatMap String.utf8EncodeChar = rest := by
  induction cs generalizing front with
  | nil => simp at same
  | cons c cs ih =>
    rw [List.flatMap_cons] at same
    rcases List.append_eq_append_iff.mp same with ⟨more, rfl, left⟩ | ⟨excess, whole, left⟩
    · obtain ⟨⟨first, rfl⟩, second⟩ := ih left
      exact ⟨⟨c :: first, List.flatMap_cons⟩, second⟩
    · cases excess with
      | nil =>
        obtain ⟨-, second⟩ := @ih [] left.symm
        exact ⟨⟨[c], by simpa using whole⟩, second⟩
      | cons first more =>
        obtain ⟨rfl, after⟩ := List.cons_eq_cons.mp left
        have single := encode_eq_of_ascii ascii (whole ▸ List.mem_append_right front List.mem_cons_self)
        rw [single] at whole
        obtain ⟨rfl, excess⟩ := List.append_eq_singleton_iff.mp whole.symm |>.resolve_right (by simp)
        obtain ⟨-, rfl⟩ := List.cons_eq_cons.mp excess
        exact ⟨⟨[], rfl⟩, ⟨cs, after.symm⟩⟩

theorem isSome_ofUtf8?_cut (ascii : b.toNat < 128) :
    (ofUtf8? (front ++ b :: rest)).isSome = true ↔
      (ofUtf8? front).isSome = true ∧ (ofUtf8? rest).isSome = true := by
  rw [isSome_ofUtf8?_iff, isSome_ofUtf8?_iff, isSome_ofUtf8?_iff]
  constructor
  · rintro ⟨cs, same⟩
    exact encoded_cut ascii same
  · rintro ⟨⟨first, rfl⟩, ⟨second, rfl⟩⟩
    have character : String.utf8EncodeChar (.ofUInt8 b) = [b] := by
      have low : (Char.ofUInt8 b).val.toNat = b.toNat := UInt8.toNat_toUInt32 b
      unfold String.utf8EncodeChar
      rw [low, if_pos (by omega), UInt8.ofNat_toNat]
    exact ⟨first ++ .ofUInt8 b :: second, by simp [character]⟩

end EdgeAlert.Text
