import Rulebook.Decimal.Reading
import Rulebook.Proofs.Text

namespace Rulebook

theorem Text.digitValue?_of_ascii {code : Nat} (low : 48 ≤ code) (high : code ≤ 57) :
    digitValue? code = some (code - 48) := by
  simp only [digitValue?, digitZeros]
  rw [List.find?_cons_of_pos (by simp [low, high])]
  rfl

namespace Decimal

variable {digits : List Char} {c : Char}

theorem toNat_of_isDigit (digit : isDigit c) : 48 ≤ c.toNat ∧ c.toNat ≤ 57 := by
  simpa [isDigit, Char.le_def, UInt32.le_iff_toNat_le] using digit

theorem isBlank_of_isDigit (digit : isDigit c) : Text.isBlank c = false := by
  obtain ⟨low, high⟩ := toNat_of_isDigit digit
  simp only [Text.isBlank, Text.isBlankCode]
  grind

theorem plainDigits_of_digits (all : ∀ c ∈ digits, isDigit c) : plainDigits digits = digits := by
  refine (List.map_congr_left fun c member => ?_).trans (List.map_id digits)
  obtain ⟨low, high⟩ := toNat_of_isDigit (all c member)
  simp only [Text.digitValue?_of_ascii low high, Nat.add_sub_cancel' low, Char.ofNat_toNat, id]

theorem dropGrouping_of_digits (all : ∀ c ∈ digits, isDigit c) (after : Bool) :
    dropGrouping after digits = some digits := by
  induction digits generalizing after with
  | nil => rfl
  | cons c rest ih =>
      obtain ⟨digit, others⟩ := List.forall_mem_cons.mp all
      have other : c ≠ '_' := by
        rintro rfl
        exact absurd digit (by decide)
      simp [dropGrouping, ih others]

theorem takeSign_of_digits (all : ∀ c ∈ digits, isDigit c) : takeSign digits = (false, digits) := by
  unfold takeSign
  split
  · exact absurd (all '-' List.mem_cons_self) (by decide)
  · exact absurd (all '+' List.mem_cons_self) (by decide)
  · rfl

theorem readInteger_digits (nonempty : digits ≠ []) (all : ∀ c ∈ digits, isDigit c)
    (short : digits.length ≤ digitLimit) :
    readInteger (String.ofList digits) = .ok (valueOf digits) := by
  have plain : ∀ c ∈ digits, isSpace c = false := fun c member => by
    simp [isSpace, isBlank_of_isDigit (all c member)]
  have trimmed : Text.trim isSpace digits = digits :=
    Text.trim_eq_self (fun c head => plain c (List.mem_of_mem_head? head))
      (fun c last => plain c (List.mem_of_mem_getLast? last))
  have allDigits : digits.all isDigit = true := List.all_eq_true.mpr all
  simp only [readInteger, String.toList_ofList, trimmed, plainDigits_of_digits all,
    takeSign_of_digits all, dropGrouping_of_digits all, allDigits, Nat.not_lt.mpr short,
    List.isEmpty_eq_false_iff.mpr nonempty]
  rfl

theorem isDigit_of_mem_toDigits {n : Nat} (member : c ∈ Nat.toDigits 10 n) : isDigit c :=
  Nat.isDigit_of_mem_toDigits (by decide) (by decide) member

theorem readInteger_toDigits {n : Nat} (short : (Nat.toDigits 10 n).length ≤ digitLimit) :
    readInteger (String.ofList (Nat.toDigits 10 n)) = .ok n := by
  have digits : ∀ c ∈ Nat.toDigits 10 n, isDigit c := fun c => isDigit_of_mem_toDigits
  have value : valueOf (Nat.toDigits 10 n) = n := Nat.ofDigitChars_ten_toDigits
  rw [readInteger_digits Nat.toDigits_ne_nil digits short, value]

end Decimal

end Rulebook
