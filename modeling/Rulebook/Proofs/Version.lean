import Mathlib.Data.Prod.Lex
import Mathlib.Data.Int.Order.Basic
import Rulebook.Proofs.Decimal.Integer
import Rulebook.Version

namespace Rulebook.Version

variable {left right : Version} {candidate current text : String} {c : Char}

/-- The numbers of a version, the one that counts most at the front. -/
def lexicographic (version : Version) : ℤ ×ₗ ℤ ×ₗ ℤ :=
  toLex (version.major, toLex (version.minor, version.patch))

theorem lexicographic_inj : left.lexicographic = right.lexicographic ↔ left = right := by
  cases left
  cases right
  simp [lexicographic, Prod.ext_iff]

theorem isAfter_iff : left.isAfter right = true ↔ right.lexicographic < left.lexicographic := by
  simp only [isAfter, lexicographic, Prod.Lex.toLex_lt_toLex]
  split
  · rename_i different
    simp [Ne.symm different]
  · rename_i same
    obtain same := not_not.mp same
    split
    · rename_i different
      simp [same, Ne.symm different]
    · rename_i again
      simp [same, not_not.mp again]

theorem isNewer_iff : isNewer candidate current = true ↔
    ∃ left right, parse? candidate = some left ∧ parse? current = some right ∧
      right.lexicographic < left.lexicographic := by
  unfold isNewer
  split
  · rename_i left right new known
    simp [new, known, isAfter_iff]
  · rename_i unread
    simp only [Bool.false_eq_true, false_iff]
    rintro ⟨left, right, new, known, -⟩
    exact unread left right new known

theorem not_isNewer_iff : isNewer candidate current = false ↔
    ∀ left right, parse? candidate = some left → parse? current = some right →
      left.lexicographic ≤ right.lexicographic := by
  rw [← Bool.not_eq_true, isNewer_iff]
  simp only [not_exists, not_and, not_lt]

theorem isNewer_irrefl (text : String) : isNewer text text = false := by
  rw [not_isNewer_iff]
  intro left right read again
  cases read.symm.trans again
  exact le_rfl

theorem isNewer_asymm (newer : isNewer candidate current = true) :
    isNewer current candidate = false := by
  obtain ⟨left, right, new, known, after⟩ := isNewer_iff.mp newer
  rw [not_isNewer_iff]
  intro other one knownAgain newAgain
  cases known.symm.trans knownAgain
  cases new.symm.trans newAgain
  exact after.le

theorem isNewer_trans {between : String} (newer : isNewer candidate between = true)
    (older : isNewer between current = true) : isNewer candidate current = true := by
  obtain ⟨left, middle, new, read, after⟩ := isNewer_iff.mp newer
  obtain ⟨again, right, readAgain, known, afterAgain⟩ := isNewer_iff.mp older
  cases read.symm.trans readAgain
  exact isNewer_iff.mpr ⟨left, right, new, known, afterAgain.trans after⟩

theorem isNewer_of_unread (unread : parse? text = none) (other : String) :
    isNewer text other = false ∧ isNewer other text = false := by
  simp [not_isNewer_iff, unread]

/-- Of two versions one is newer unless they are the same. -/
theorem isNewer_or_isNewer_iff (new : parse? candidate = some left)
    (known : parse? current = some right) :
    isNewer candidate current = true ∨ isNewer current candidate = true ↔ left ≠ right := by
  simp only [isNewer_iff, new, known, Option.some.injEq, exists_and_left, exists_eq_left']
  rw [or_comm, lt_or_lt_iff_ne]
  exact lexicographic_inj.not

/-- The version that three numbers make. -/
def ofNumbers (numbers : ℕ × ℕ × ℕ) : Version := ⟨numbers.1, numbers.2.1, numbers.2.2⟩

/-- Three numbers in decimal with points between them. -/
def dotted (numbers : ℕ × ℕ × ℕ) : String :=
  toString numbers.1 ++ "." ++ toString numbers.2.1 ++ "." ++ toString numbers.2.2

/-- The text is the numbers in decimal with points between them, behind any letters `v`, and within
any white space. -/
def IsWritten (numbers : ℕ × ℕ × ℕ) (text : String) : Prop :=
  ∃ before after marks, (∀ c ∈ before, Text.isBlank c) ∧ (∀ c ∈ after, Text.isBlank c) ∧
    text.toList = before ++ (List.replicate marks 'v' ++ (dotted numbers).toList) ++ after

/-- Each of the numbers has few enough digits to be read. -/
def IsReadable (numbers : ℕ × ℕ × ℕ) : Prop :=
  ∀ number ∈ [numbers.1, numbers.2.1, numbers.2.2], (toString number).length ≤ Decimal.digitLimit

theorem toList_dotted (numbers : ℕ × ℕ × ℕ) :
    (dotted numbers).toList = Nat.toDigits 10 numbers.1 ++
      '.' :: (Nat.toDigits 10 numbers.2.1 ++ '.' :: Nat.toDigits 10 numbers.2.2) := by
  simp [dotted]

theorem point_notMem_toDigits (n : Nat) : '.' ∉ Nat.toDigits 10 n := fun member =>
  absurd (Decimal.isDigit_of_mem_toDigits member) (by decide)

theorem trim_written (numbers : ℕ × ℕ × ℕ) (marks : Nat) :
    Text.trim Text.isBlank (List.replicate marks 'v' ++ (dotted numbers).toList) =
      List.replicate marks 'v' ++ (dotted numbers).toList := by
  have solid : ∀ c ∈ List.replicate marks 'v' ++ (dotted numbers).toList,
      Text.isBlank c = false := by
    intro c member
    simp only [toList_dotted, List.mem_append, List.mem_replicate, List.mem_cons] at member
    rcases member with ⟨-, rfl⟩ | first | rfl | second | rfl | third
    · decide
    · exact Decimal.isBlank_of_isDigit (Decimal.isDigit_of_mem_toDigits first)
    · decide
    · exact Decimal.isBlank_of_isDigit (Decimal.isDigit_of_mem_toDigits second)
    · decide
    · exact Decimal.isBlank_of_isDigit (Decimal.isDigit_of_mem_toDigits third)
  exact Text.trim_eq_self (fun c head => solid c (List.mem_of_mem_head? head))
    (fun c last => solid c (List.mem_of_mem_getLast? last))

theorem trimStart_written (numbers : ℕ × ℕ × ℕ) (marks : Nat) :
    Text.trimStart (· == 'v') (List.replicate marks 'v' ++ (dotted numbers).toList) =
      (dotted numbers).toList := by
  have front : ∀ c ∈ List.replicate marks 'v', (c == 'v') = true := fun c member =>
    beq_iff_eq.mpr (List.mem_replicate.mp member).2
  rw [Text.trimStart, List.dropWhile_append_of_pos front, toList_dotted]
  cases digits : Nat.toDigits 10 numbers.1 with
  | nil => exact absurd digits Nat.toDigits_ne_nil
  | cons c rest =>
      have digit : Decimal.isDigit c :=
        Decimal.isDigit_of_mem_toDigits (n := numbers.1) (by simp [digits])
      have other : c ≠ 'v' := by
        rintro rfl
        exact absurd digit (by decide)
      simp [other]

theorem parse?_of_written {numbers : ℕ × ℕ × ℕ} (readable : IsReadable numbers)
    (written : IsWritten numbers text) : parse? text = some (ofNumbers numbers) := by
  obtain ⟨before, after, marks, front, back, shape⟩ := written
  have stays : ∃ c ∈ List.replicate marks 'v' ++ (dotted numbers).toList,
      Text.isBlank c = false := ⟨'.', by simp [toList_dotted], by decide⟩
  have body : Text.trimStart (· == 'v') (Text.trim Text.isBlank text.toList) =
      (dotted numbers).toList := by
    rw [shape, Text.trim_surrounded front back stays, trim_written, trimStart_written]
  have parts : Text.splitAt '.' (dotted numbers).toList =
      [Nat.toDigits 10 numbers.1, Nat.toDigits 10 numbers.2.1, Nat.toDigits 10 numbers.2.2] := by
    rw [toList_dotted, Text.splitAt_append (point_notMem_toDigits _),
      Text.splitAt_append (point_notMem_toDigits _),
      Text.splitAt_of_notMem (point_notMem_toDigits _)]
  have read : ∀ number ∈ [numbers.1, numbers.2.1, numbers.2.2],
      Decimal.readInteger (String.ofList (Nat.toDigits 10 number)) = .ok number :=
    fun number member => Decimal.readInteger_toDigits
      (by simpa [Nat.repr_eq_ofList_toDigits] using readable number member)
  obtain ⟨major, minor, patch⟩ : _ ∧ _ ∧ _ := by simpa using read
  simp only [parse?, body, parts, List.map_cons, List.map_nil, major, minor, patch]
  rfl

theorem lexicographic_ofNumbers_lt {numbers others : ℕ × ℕ × ℕ} :
    (ofNumbers others).lexicographic < (ofNumbers numbers).lexicographic ↔
      Prod.Lex (· < ·) (Prod.Lex (· < ·) (· < ·)) others numbers := by
  simp [lexicographic, ofNumbers, Prod.Lex.toLex_lt_toLex, Prod.lex_def, Int.natCast_inj]

/-- Comparing texts is a strict order, in which a text that is no version stands apart from all
others, and one of two versions comes first unless they are the same. It is the lexicographic order
of the numbers, in whichever of their forms these are written. -/
theorem isNewer_orders :
    (∀ text, isNewer text text = false) ∧
    (∀ first second, isNewer first second = true → isNewer second first = false) ∧
    (∀ first second third, isNewer first second = true → isNewer second third = true →
      isNewer first third = true) ∧
    (∀ text other, parse? text = none →
      isNewer text other = false ∧ isNewer other text = false) ∧
    (∀ first second left right, parse? first = some left → parse? second = some right →
      (isNewer first second = true ∨ isNewer second first = true ↔ left ≠ right)) ∧
    ∀ first second numbers others, IsReadable numbers → IsReadable others →
      IsWritten numbers first → IsWritten others second →
      parse? first = some (ofNumbers numbers) ∧
      (isNewer first second = true ↔
        Prod.Lex (· < ·) (Prod.Lex (· < ·) (· < ·)) others numbers) := by
  refine ⟨isNewer_irrefl, fun _ _ => isNewer_asymm, fun _ _ _ => isNewer_trans,
    fun _ other unread => isNewer_of_unread unread other,
    fun _ _ _ _ new known => isNewer_or_isNewer_iff new known, ?_⟩
  intro first second numbers others readable readableOther written writtenOther
  have new := parse?_of_written readable written
  have known := parse?_of_written readableOther writtenOther
  refine ⟨new, ?_⟩
  simp only [isNewer_iff, new, known, Option.some.injEq, exists_and_left, exists_eq_left']
  exact lexicographic_ofNumbers_lt

/-- Ten comes after nine, though not as a text. A text with two numbers stands apart. -/
theorem ten_isNewer :
    IsReadable (1, 10, 0) ∧ IsWritten (1, 10, 0) "\tvv1.10.0 \n" ∧
    isNewer "\tvv1.10.0 \n" "1.9.9" = true ∧ isNewer "1.9.9" "\tvv1.10.0 \n" = false ∧
    isNewer "2.0.0" "1.9.9" = true ∧ isNewer "1.10" "1.9.9" = false ∧
    ofNumbers (1, 10, 0) ≠ ofNumbers (1, 9, 9) := by
  obtain ⟨-, asymmetric, transitive, apart, compared, orders⟩ := isNewer_orders
  have first : IsWritten (1, 10, 0) "\tvv1.10.0 \n" :=
    ⟨['\t'], [' ', '\n'], 2, List.all_eq_true.mp (by decide), List.all_eq_true.mp (by decide),
      by decide⟩
  have second : IsWritten (1, 9, 9) "1.9.9" := ⟨[], [], 0, by simp, by simp, by decide⟩
  have third : IsWritten (2, 0, 0) "2.0.0" := ⟨[], [], 0, by simp, by simp, by decide⟩
  have ten : IsReadable (1, 10, 0) := by simp [IsReadable, Decimal.digitLimit]; decide
  have nine : IsReadable (1, 9, 9) := by simp [IsReadable, Decimal.digitLimit]; decide
  have two : IsReadable (2, 0, 0) := by simp [IsReadable, Decimal.digitLimit]; decide
  have newer := (orders _ _ _ _ ten nine first second).2.mpr (by simp [Prod.lex_def])
  have newest := (orders _ _ _ _ two ten third first).2.mpr (by simp [Prod.lex_def])
  have unread : parse? "1.10" = none := by decide
  have read := (orders _ _ _ _ ten nine first second).1
  have readOther := (orders _ _ _ _ nine ten second first).1
  exact ⟨ten, first, newer, asymmetric _ _ newer, transitive _ _ _ newest newer,
    (apart _ _ unread).1, (compared _ _ _ _ read readOther).mp (.inl newer)⟩

end Rulebook.Version
