import Mathlib.Tactic.SplitIfs
import Rulebook.Proofs.Running
import Rulebook.Text.Utf8

namespace Rulebook.Text

variable {first low high : UInt8} {bytes rest : List UInt8} {count code taken : Nat} {n : Nat}

theorem utf8Code_cons (low high : UInt8) (count code : Nat) {byte : UInt8} (rest : List UInt8)
    (taken : Nat) (above : low.toNat ≤ byte.toNat) (below : byte.toNat ≤ high.toNat) :
    utf8Code low high (count + 1) code (byte :: rest) taken =
      utf8Code 0x80 0xBF count (code * 64 + (byte.toNat - 0x80)) rest (taken + 1) := by
  rw [utf8Code, if_pos ⟨UInt8.le_iff_toNat_le.mpr above, UInt8.le_iff_toNat_le.mpr below⟩]

theorem utf8Code_succ (read : utf8Code low high (count + 1) code bytes taken = .ok n) :
    ∃ byte rest, bytes = byte :: rest ∧ low.toNat ≤ byte.toNat ∧ byte.toNat ≤ high.toNat ∧
      utf8Code 0x80 0xBF count (code * 64 + (byte.toNat - 0x80)) rest (taken + 1) = .ok n := by
  cases bytes with
  | nil => cases read
  | cons byte rest =>
      rw [utf8Code] at read
      split at read
      · rename_i within
        exact ⟨byte, rest, rfl, UInt8.le_iff_toNat_le.mp within.1,
          UInt8.le_iff_toNat_le.mp within.2, read⟩
      · cases read

/-- What a first byte tells: how many bytes follow, and the range of the next one. -/
theorem utf8Tail_cases (told : utf8Tail first = some (count, low, high)) :
    (count = 0 ∧ first.toNat < 0x80) ∨
    (count = 1 ∧ 0xC2 ≤ first.toNat ∧ first.toNat < 0xE0 ∧
      low.toNat = 0x80 ∧ high.toNat = 0xBF) ∨
    (count = 2 ∧ 0xE0 ≤ first.toNat ∧ first.toNat < 0xF0 ∧
      low.toNat = (if first.toNat = 0xE0 then 0xA0 else 0x80) ∧
      high.toNat = if first.toNat = 0xED then 0x9F else 0xBF) ∨
    (count = 3 ∧ 0xF0 ≤ first.toNat ∧ first.toNat < 0xF5 ∧
      low.toNat = (if first.toNat = 0xF0 then 0x90 else 0x80) ∧
      high.toNat = if first.toNat = 0xF4 then 0x8F else 0xBF) := by
  simp only [utf8Tail, UInt8.lt_iff_toNat_lt, ← UInt8.toNat_inj, UInt8.reduceToNat] at told
  split_ifs at told <;> cases told <;> simp [*] <;> omega

theorem val_charOfNat (valid : n.isValidChar) : (Char.ofNat n).val.toNat = n := by
  rw [Char.ofNat, dif_pos valid]
  rfl

theorem ofNat_of_toNat {byte : UInt8} (told : byte.toNat = n) : UInt8.ofNat n = byte := by
  rw [← told, UInt8.ofNat_toNat]

/-- The bytes of a character that were read are those that it is written as. -/
theorem utf8EncodeChar_of_code (told : utf8Tail first = some (count, low, high))
    (read : utf8Code low high count (utf8Lead first count) rest taken = .ok n) :
    first :: rest = String.utf8EncodeChar (Char.ofNat n) ++ rest.drop count := by
  rcases utf8Tail_cases told with ⟨rfl, small⟩ | ⟨rfl, least, most, lowest, highest⟩ |
    ⟨rfl, least, most, lowest, highest⟩ | ⟨rfl, least, most, lowest, highest⟩
  · have code : first.toNat = n := Except.ok.inj read
    rw [String.utf8EncodeChar, val_charOfNat (.inl (by omega)), if_pos (by omega),
      ofNat_of_toNat code]
    rfl
  · obtain ⟨second, rest, rfl, above, below, read⟩ := utf8Code_succ read
    have code : (first.toNat - 0xC0) * 64 + (second.toNat - 0x80) = n := Except.ok.inj read
    have one : first.toNat = n / 64 % 0x20 + 0xC0 := by omega
    have two : second.toNat = n % 0x40 + 0x80 := by omega
    rw [String.utf8EncodeChar, val_charOfNat (.inl (by omega)), if_neg (by omega),
      if_pos (by omega), ofNat_of_toNat one, ofNat_of_toNat two]
    rfl
  · obtain ⟨second, rest, rfl, above, below, read⟩ := utf8Code_succ read
    obtain ⟨third, rest, rfl, aboveThird, belowThird, read⟩ := utf8Code_succ read
    simp only [UInt8.reduceToNat] at aboveThird belowThird
    have code : ((first.toNat - 0xE0) * 64 + (second.toNat - 0x80)) * 64 + (third.toNat - 0x80) =
        n := Except.ok.inj read
    rw [lowest] at above
    rw [highest] at below
    -- The ranges of the second byte leave out shorter forms and surrogates.
    have long : 0x7FF < n := by split_ifs at above <;> omega
    have valid : n < 0xD800 ∨ 0xDFFF < n ∧ n < 0x110000 := by split_ifs at below <;> omega
    have one : first.toNat = n / 4096 % 0x10 + 0xE0 := by split_ifs at above below <;> omega
    have two : second.toNat = n / 64 % 0x40 + 0x80 := by split_ifs at above below <;> omega
    have three : third.toNat = n % 0x40 + 0x80 := by omega
    rw [String.utf8EncodeChar, val_charOfNat valid, if_neg (by omega), if_neg (by omega),
      if_pos (by omega), ofNat_of_toNat one, ofNat_of_toNat two, ofNat_of_toNat three]
    rfl
  · obtain ⟨second, rest, rfl, above, below, read⟩ := utf8Code_succ read
    obtain ⟨third, rest, rfl, aboveThird, belowThird, read⟩ := utf8Code_succ read
    obtain ⟨fourth, rest, rfl, aboveFourth, belowFourth, read⟩ := utf8Code_succ read
    simp only [UInt8.reduceToNat] at aboveThird belowThird aboveFourth belowFourth
    have code : (((first.toNat - 0xF0) * 64 + (second.toNat - 0x80)) * 64 +
        (third.toNat - 0x80)) * 64 + (fourth.toNat - 0x80) = n := Except.ok.inj read
    rw [lowest] at above
    rw [highest] at below
    have long : 0xFFFF < n := by split_ifs at above <;> omega
    have bounded : n < 0x110000 := by split_ifs at below <;> omega
    have one : first.toNat = n / 262144 % 0x08 + 0xF0 := by split_ifs at above below <;> omega
    have two : second.toNat = n / 4096 % 0x40 + 0x80 := by split_ifs at above below <;> omega
    have three : third.toNat = n / 64 % 0x40 + 0x80 := by omega
    have four : fourth.toNat = n % 0x40 + 0x80 := by omega
    rw [String.utf8EncodeChar, val_charOfNat (.inr ⟨by omega, bounded⟩), if_neg (by omega),
      if_neg (by omega), if_neg (by omega), ofNat_of_toNat one, ofNat_of_toNat two,
      ofNat_of_toNat three, ofNat_of_toNat four]
    rfl

theorem exists_utf8Tail (first : UInt8)
    (fits : first.toNat < 0x80 ∨ 0xC2 ≤ first.toNat ∧ first.toNat < 0xF5) :
    ∃ count low high, utf8Tail first = some (count, low, high) := by
  simp only [utf8Tail, UInt8.lt_iff_toNat_lt, ← UInt8.toNat_inj, UInt8.reduceToNat]
  split_ifs <;> first | omega | exact ⟨_, _, _, rfl⟩

/-- The bytes, whatever follows them, are read as the code of one character. -/
def ReadsAs (bytes : List UInt8) (code : Nat) : Prop :=
  ∃ first tail low high, bytes = first :: tail ∧
    utf8Tail first = some (tail.length, low, high) ∧
    ∀ rest taken, utf8Code low high tail.length (utf8Lead first tail.length) (tail ++ rest) taken =
      .ok code

section

variable {second third fourth : UInt8}

theorem readsAs_one (one : first.toNat = n) (short : n ≤ 0x7F) : ReadsAs [first] n := by
  obtain ⟨count, low, high, told⟩ := exists_utf8Tail first (by omega)
  obtain rfl : count = 0 := by
    have cases := utf8Tail_cases told
    omega
  exact ⟨first, [], low, high, rfl, told, fun rest taken => congrArg Except.ok one⟩

theorem readsAs_two (one : first.toNat = n / 64 % 0x20 + 0xC0) (two : second.toNat = n % 0x40 + 0x80)
    (short : 0x7F < n) (long : n ≤ 0x7FF) : ReadsAs [first, second] n := by
  obtain ⟨count, low, high, told⟩ := exists_utf8Tail first (by omega)
  obtain ⟨rfl, lowest, highest⟩ : count = 1 ∧ low.toNat = 0x80 ∧ high.toNat = 0xBF := by
    have cases := utf8Tail_cases told
    omega
  refine ⟨first, [second], low, high, rfl, told, fun rest taken => ?_⟩
  have code : (first.toNat - 0xC0) * 64 + (second.toNat - 0x80) = n := by omega
  rw [List.cons_append, List.length_singleton,
    utf8Code_cons low high 0 _ _ _ (by omega) (by omega)]
  exact congrArg Except.ok code

theorem readsAs_three (one : first.toNat = n / 4096 % 0x10 + 0xE0)
    (two : second.toNat = n / 64 % 0x40 + 0x80) (three : third.toNat = n % 0x40 + 0x80)
    (short : 0x7FF < n) (long : n ≤ 0xFFFF) (sound : n < 0xD800 ∨ 0xDFFF < n) :
    ReadsAs [first, second, third] n := by
  obtain ⟨count, low, high, told⟩ := exists_utf8Tail first (by omega)
  obtain ⟨rfl, above, below⟩ : count = 2 ∧ low.toNat ≤ second.toNat ∧
      second.toNat ≤ high.toNat := by
    have cases := utf8Tail_cases told
    split_ifs at cases <;> omega
  refine ⟨first, [second, third], low, high, rfl, told, fun rest taken => ?_⟩
  have code : ((first.toNat - 0xE0) * 64 + (second.toNat - 0x80)) * 64 + (third.toNat - 0x80) =
      n := by omega
  rw [List.cons_append, List.cons_append, List.length_cons, List.length_singleton,
    utf8Code_cons low high 1 _ _ _ above below,
    utf8Code_cons 0x80 0xBF 0 _ _ _ (by simp; omega) (by simp; omega)]
  exact congrArg Except.ok code

theorem readsAs_four (one : first.toNat = n / 262144 % 0x08 + 0xF0)
    (two : second.toNat = n / 4096 % 0x40 + 0x80) (three : third.toNat = n / 64 % 0x40 + 0x80)
    (four : fourth.toNat = n % 0x40 + 0x80) (short : 0xFFFF < n) (long : n < 0x110000) :
    ReadsAs [first, second, third, fourth] n := by
  obtain ⟨count, low, high, told⟩ := exists_utf8Tail first (by omega)
  obtain ⟨rfl, above, below⟩ : count = 3 ∧ low.toNat ≤ second.toNat ∧
      second.toNat ≤ high.toNat := by
    have cases := utf8Tail_cases told
    split_ifs at cases <;> omega
  refine ⟨first, [second, third, fourth], low, high, rfl, told, fun rest taken => ?_⟩
  have code : (((first.toNat - 0xF0) * 64 + (second.toNat - 0x80)) * 64 +
      (third.toNat - 0x80)) * 64 + (fourth.toNat - 0x80) = n := by omega
  rw [List.cons_append, List.cons_append, List.cons_append, List.length_cons, List.length_cons,
    List.length_singleton, utf8Code_cons low high 2 _ _ _ above below,
    utf8Code_cons 0x80 0xBF 1 _ _ _ (by simp; omega) (by simp; omega),
    utf8Code_cons 0x80 0xBF 0 _ _ _ (by simp; omega) (by simp; omega)]
  exact congrArg Except.ok code

end

/-- The bytes that a character is written as are read as the character. -/
theorem readsAs_utf8EncodeChar (c : Char) : ReadsAs (String.utf8EncodeChar c) c.toNat := by
  have byte {m : Nat} (small : m < 256) : (UInt8.ofNat m).toNat = m := by
    rw [UInt8.toNat_ofNat', Nat.mod_eq_of_lt small]
  have valid : c.toNat < 0xD800 ∨ 0xDFFF < c.toNat ∧ c.toNat < 0x110000 := c.valid
  rw [String.utf8EncodeChar, ← Char.toNat]
  split_ifs with short medium long
  · exact readsAs_one (byte (by omega)) short
  · exact readsAs_two (byte (by omega)) (byte (by omega)) (by omega) medium
  · exact readsAs_three (byte (by omega)) (byte (by omega)) (byte (by omega)) (by omega) long
      (by omega)
  · exact readsAs_four (byte (by omega)) (byte (by omega)) (byte (by omega)) (byte (by omega))
      (by omega) (by omega)

theorem utf8Chars_skip (position skip : Nat) (bytes : List UInt8) :
    ∃ place, utf8Chars position skip bytes = utf8Chars place 0 (bytes.drop skip) := by
  induction bytes generalizing position skip with
  | nil => exact ⟨position, by simp [utf8Chars]⟩
  | cons byte rest ih =>
      cases skip with
      | zero => exact ⟨position, rfl⟩
      | succ skip => exact ih (position + 1) skip

theorem utf8Chars_of_chars (chars : List Char) (position : Nat) :
    utf8Chars position 0 (chars.flatMap String.utf8EncodeChar) = .ok chars := by
  induction chars generalizing position with
  | nil => rfl
  | cons c rest ih =>
      obtain ⟨first, tail, low, high, written, told, read⟩ := readsAs_utf8EncodeChar c
      obtain ⟨place, passed⟩ := utf8Chars_skip (position + 1) tail.length
        (tail ++ rest.flatMap String.utf8EncodeChar)
      rw [List.drop_left, ih] at passed
      simp only [List.flatMap_cons, written, List.cons_append, utf8Chars, told, read, passed]
      exact congrArg (fun c => Except.ok (c :: rest)) (Char.ofNat_toNat c)

/-- What is read is a text that is written as the bytes. -/
theorem eq_of_utf8Chars {chars : List Char} {position : Nat}
    (read : utf8Chars position 0 bytes = .ok chars) :
    bytes = chars.flatMap String.utf8EncodeChar := by
  induction size : bytes.length using Nat.strongRecOn generalizing bytes chars position with
  | _ bound ih =>
      cases bytes with
      | nil =>
          cases read
          rfl
      | cons first rest =>
          simp only [utf8Chars] at read
          split at read
          · cases read
          · rename_i count low high told
            split at read
            · cases read
            · cases read
            · rename_i code coded
              obtain ⟨place, passed⟩ := utf8Chars_skip (position + 1) count rest
              rw [passed] at read
              obtain ⟨others, following, made⟩ := except_bind_eq_ok.mp read
              cases made
              have shorter : (rest.drop count).length < bound := by
                rw [List.length_cons] at size
                rw [List.length_drop]
                omega
              rw [utf8EncodeChar_of_code told coded, List.flatMap_cons, ← ih _ shorter following rfl]

/-- Bytes are read as a text exactly if the text is written as them. -/
theorem utf8Decode_eq_ok_iff {chars : List Char} :
    utf8Decode bytes = .ok chars ↔ bytes = (String.ofList chars).toUTF8.data.toList := by
  have written : (String.ofList chars).toUTF8.data.toList =
      chars.flatMap String.utf8EncodeChar := by
    rw [String.toUTF8_eq_toByteArray, ← String.utf8Encode_toList, List.utf8Encode]
    simp
  rw [written]
  exact ⟨eq_of_utf8Chars, fun same => same ▸ utf8Chars_of_chars chars 0⟩

end Rulebook.Text
