import Mathlib
import Rulebook.Text.CodePoint

namespace Rulebook

namespace CodePoint

theorem ofChar_plain (c : Char) : (ofChar c).isSurrogate = false := by
  have valid : c.toNat.isValidChar := c.valid
  simp only [Nat.isValidChar] at valid
  have apart : ¬ (0xD800 ≤ (ofChar c).val ∧ (ofChar c).val ≤ 0xDFFF) := by
    change ¬ (0xD800 ≤ c.toNat ∧ c.toNat ≤ 0xDFFF)
    omega
  simpa only [isSurrogate, Bool.and_eq_false_iff, decide_eq_false_iff_not, not_and_or] using apart

theorem char?_ofChar (c : Char) : (ofChar c).char? = some c := by
  rw [char?, dif_pos (ofChar_plain c)]
  exact congrArg some (Char.ext rfl)

theorem char?_eq_some_iff {code : CodePoint} {c : Char} :
    code.char? = some c ↔ code = ofChar c := by
  constructor
  · intro read
    unfold char? at read
    split at read
    · cases read
      rfl
    · cases read
  · rintro rfl
    exact char?_ofChar c

theorem exists_ofChar {code : CodePoint} (plain : code.isSurrogate = false) :
    ∃ c, code = ofChar c := by
  have read : code.char? = some (Char.ofNatAux code.val (isValidChar plain)) := dif_pos plain
  exact ⟨_, char?_eq_some_iff.mp read⟩

end CodePoint

namespace CodeText

/-- The text has no surrogates. -/
def IsPlain (text : CodeText) : Prop := ∀ code ∈ text, code.isSurrogate = false

variable {text : CodeText} {error : EncodeError}

instance : Decidable text.IsPlain :=
  inferInstanceAs (Decidable (∀ code ∈ text, code.isSurrogate = false))

theorem ofString_isPlain (read : String) : (ofString read).IsPlain := by
  intro code within
  obtain ⟨c, -, rfl⟩ := List.mem_map.mp within
  exact CodePoint.ofChar_plain c

theorem exists_ofString (plain : text.IsPlain) : ∃ read, text = ofString read := by
  induction text with
  | nil => exact ⟨"", rfl⟩
  | cons code rest ih =>
      obtain ⟨c, rfl⟩ := CodePoint.exists_ofChar (plain code List.mem_cons_self)
      obtain ⟨read, rfl⟩ := ih fun later within => plain later (List.mem_cons_of_mem _ within)
      exact ⟨String.ofList (c :: read.toList), by simp [ofString]⟩

theorem mapM_ofChar (chars : List Char) :
    (chars.map CodePoint.ofChar).mapM CodePoint.char? = some chars := by
  induction chars with
  | nil => rfl
  | cons c rest ih => simp [CodePoint.char?_ofChar, ih]

theorem encode_ofString (read : String) : (ofString read).encode = .ok read := by
  rw [encode, ofString, mapM_ofChar]
  simp

theorem mapM_char?_eq_some {chars : List Char} (read : text.mapM CodePoint.char? = some chars) :
    text = chars.map CodePoint.ofChar := by
  induction text generalizing chars with
  | nil =>
      cases read
      rfl
  | cons code rest ih =>
      simp only [List.mapM_cons, bind, Option.bind_eq_some_iff, pure, Option.some.injEq] at read
      obtain ⟨c, first, others, later, rfl⟩ := read
      rw [CodePoint.char?_eq_some_iff.mp first, ih later]
      rfl

theorem encode_eq_ok_iff {read : String} : text.encode = .ok read ↔ text = ofString read := by
  constructor
  · intro told
    unfold encode at told
    split at told
    · rename_i chars read
      cases told
      rw [ofString, String.toList_ofList, mapM_char?_eq_some read]
    · cases told
  · rintro rfl
    exact encode_ofString read

theorem exists_encode_iff : (∃ read, text.encode = .ok read) ↔ text.IsPlain := by
  simp only [encode_eq_ok_iff]
  constructor
  · rintro ⟨read, rfl⟩
    exact ofString_isPlain read
  · exact exists_ofString

theorem exists_encode_error_iff : (∃ error, text.encode = .error error) ↔ ¬ text.IsPlain := by
  rw [← exists_encode_iff]
  cases text.encode <;> simp

/-- The error tells the first surrogates, and where in the text they stand. -/
theorem encode_error (failed : text.encode = .error error) :
    ∃ before rest, text = ofString before ++ error.surrogates ++ rest ∧
      before.length = error.position ∧ error.surrogates ≠ [] ∧
      (∀ code ∈ error.surrogates, code.isSurrogate = true) ∧
      ∀ code ∈ rest.head?, code.isSurrogate = false := by
  have marred : ¬ text.IsPlain := exists_encode_error_iff.mp ⟨error, failed⟩
  unfold encode at failed
  split at failed
  · cases failed
  · cases failed
    obtain ⟨before, read⟩ : ∃ before, text.takeWhile (!·.isSurrogate) = ofString before :=
      exists_ofString fun code within => by simpa using List.mem_takeWhile_imp within
    have parts : text = ofString before ++ text.dropWhile (!·.isSurrogate) := by
      rw [← read, List.takeWhile_append_dropWhile]
    have first := List.head?_dropWhile_not (!·.isSurrogate) text
    generalize text.dropWhile (!·.isSurrogate) = rest at parts first
    refine ⟨before, rest.dropWhile (·.isSurrogate), ?_, ?_, ?_, ?_, ?_⟩
    · rw [List.append_assoc, List.takeWhile_append_dropWhile, ← parts]
    · simp [parts, ofString, String.length_toList]
    · cases rest with
      | nil =>
          rw [List.append_nil] at parts
          exact absurd (parts ▸ ofString_isPlain before) marred
      | cons code more =>
          have surrogate : code.isSurrogate = true := by simpa using first
          simp [surrogate]
    · exact fun code within => List.mem_takeWhile_imp within
    · intro code next
      have after := List.head?_dropWhile_not (·.isSurrogate) rest
      rw [Option.mem_def.mp next] at after
      exact after

example : (encode [0x61, 0xDCFF, 0x62]).mapError EncodeError.message =
    .error
      "'utf-8' codec can't encode character '\\udcff' in position 1: surrogates not allowed" := by
  rfl

end CodeText

end Rulebook
