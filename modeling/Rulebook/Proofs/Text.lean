import Mathlib.Data.List.DropRight
import Rulebook.Text.Blank

namespace Rulebook.Text

variable {separator : Char} {text first rest ending before after : List Char} {drop : Char → Bool}

theorem splitAt_eq_splitOn (separator : Char) (text : List Char) :
    splitAt separator text = text.splitOn separator := by
  induction text with
  | nil => rfl
  | cons c rest ih =>
      simp only [List.splitOn] at ih
      simp only [splitAt, List.splitOn, List.splitOnP_cons_eq_if_modifyHead, ih, beq_iff_eq]
      by_cases same : c = separator
      · simp [same]
      · cases parts : List.splitOnP (· == separator) rest with
        | nil => exact absurd parts (List.splitOnP_ne_nil _ rest)
        | cons first others => simp [same]

theorem splitAt_ne_nil (separator : Char) (text : List Char) : splitAt separator text ≠ [] := by
  rw [splitAt_eq_splitOn]
  exact List.splitOn_ne_nil separator text

theorem splitAt_of_notMem (absent : separator ∉ text) : splitAt separator text = [text] := by
  induction text with
  | nil => rfl
  | cons c rest ih =>
      obtain ⟨other, restAbsent⟩ := not_or.mp (List.mem_cons.not.mp absent)
      simp [splitAt, Ne.symm other, ih restAbsent]

theorem splitAt_append (absent : separator ∉ first) :
    splitAt separator (first ++ separator :: rest) = first :: splitAt separator rest := by
  induction first with
  | nil => simp [splitAt]
  | cons c more ih =>
      obtain ⟨other, moreAbsent⟩ := not_or.mp (List.mem_cons.not.mp absent)
      simp [splitAt, Ne.symm other, ih moreAbsent]

/-- An ending without separators belongs to the last part. -/
theorem splitAt_append_ending (text : List Char) (absent : separator ∉ ending) :
    splitAt separator (text ++ ending) =
      (splitAt separator text).dropLast ++ [(splitAt separator text).getLastD [] ++ ending] := by
  induction text with
  | nil => exact splitAt_of_notMem absent
  | cons c rest ih =>
      cases parts : splitAt separator rest with
      | nil => exact absurd parts (splitAt_ne_nil separator rest)
      | cons part others =>
          by_cases same : c = separator
          · simp [splitAt, same, ih, parts]
          · cases others <;> simp [splitAt, same, ih, parts]

theorem trimEnd_prefix (drop : Char → Bool) (text : List Char) : trimEnd drop text <+: text :=
  List.rdropWhile_prefix drop text

theorem trimEnd_cons {c : Char} (kept : drop c = false) (rest : List Char) :
    trimEnd drop (c :: rest) = c :: trimEnd drop rest := by
  rw [trimEnd, List.reverse_cons, List.dropWhile_append]
  split
  · rename_i dropped
    simp [trimEnd, List.isEmpty_iff.mp dropped, kept]
  · simp [trimEnd]

theorem trim_eq_self (head : ∀ c ∈ text.head?, drop c = false)
    (last : ∀ c ∈ text.getLast?, drop c = false) : trim drop text = text := by
  have start : trimStart drop text = text := by
    cases text with
    | nil => rfl
    | cons c rest => simp [trimStart, head c rfl]
  rw [trim, start, trimEnd]
  cases reversed : text.reverse with
  | nil => simpa using reversed.symm
  | cons c rest =>
      have dropped : drop c = false := last c (by simp [← List.head?_reverse, reversed])
      rw [List.dropWhile_cons_of_neg (by simp [dropped]), ← reversed, List.reverse_reverse]

/-- What is dropped around a text does not matter where some of the text stays. -/
theorem trim_surrounded (front : ∀ c ∈ before, drop c) (back : ∀ c ∈ after, drop c)
    (stays : ∃ c ∈ text, drop c = false) :
    trim drop (before ++ text ++ after) = trim drop text := by
  have remains : text.dropWhile drop ≠ [] := by
    obtain ⟨c, member, kept⟩ := stays
    exact fun none => by simpa [kept] using List.dropWhile_eq_nil_iff.mp none c member
  have start : trimStart drop (before ++ text ++ after) = trimStart drop text ++ after := by
    rw [trimStart, List.append_assoc, List.dropWhile_append_of_pos front, List.dropWhile_append,
      if_neg (by simpa using remains), trimStart]
  have behind : ∀ c ∈ after.reverse, drop c := fun c member => back c (List.mem_reverse.mp member)
  rw [trim, start, trimEnd, List.reverse_append, List.dropWhile_append_of_pos behind, trim, trimEnd]

/-- Trimming a text that does not end in what is dropped takes off its start alone. -/
theorem takeWhile_append_trim (text : List Char) (last : ∀ c ∈ text.getLast?, drop c = false) :
    text.takeWhile drop ++ trim drop text = text := by
  have kept : trim drop text = text.dropWhile drop := by
    refine List.rdropWhile_eq_self_iff.mpr fun nonempty => ?_
    have final := List.IsSuffix.getLast (List.dropWhile_suffix drop) nonempty
    simpa [trimStart, final] using last _ (List.getLast_mem_getLast? _)
  rw [kept, List.takeWhile_append_dropWhile]

end Rulebook.Text
