/-!
Replacing the occurrences of one text by another.
-/

namespace Rulebook.Text

/-- Replaces occurrences of `old`, which is not empty, from left to right; an occurrence starts
where the one before it has ended. -/
def replaceAll (old new : List Char) (text : List Char) : List Char :=
  match text with
  | [] => []
  | c :: rest =>
      if _found : old ≠ [] ∧ old.isPrefixOf (c :: rest) then
        new ++ replaceAll old new ((c :: rest).drop old.length)
      else c :: replaceAll old new rest
  termination_by text.length
  decreasing_by
    · have := List.length_pos_iff.mpr _found.1
      simp only [List.length_drop, List.length_cons]; omega
    · simp

end Rulebook.Text
