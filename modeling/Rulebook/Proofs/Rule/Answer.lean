import Rulebook.Proofs.Pattern.Failure
import Rulebook.Proofs.Rule.Memo

namespace Rulebook

/-- The failures that are errors of the pattern. -/
def Pattern.Failure.IsRejection : Pattern.Failure → Prop
  | .rejected _ => True
  | _ => False

namespace Matcher

variable [Pattern.Edition] {wanted : Option String} {matcher : Matcher} {failure : Pattern.Failure}

/-- The pattern is there, and can be compiled. -/
def CanCompile (wanted : Option String) : Prop :=
  ∃ source ∈ wanted, ∃ compiled, Pattern.compile source = .ok compiled

/-- There is a match in no text. -/
def IsSilent (matcher : Matcher) : Prop :=
  ∀ text, matcher.occursIn text = .ok false ∧ matcher.count text = .ok 0

theorem isSilent_of_isBroken (isBroken : matcher.isBroken) : matcher.IsSilent := by
  cases matcher with
  | pattern compiled => contradiction
  | broken message => exact fun _ => ⟨rfl, rfl⟩

/-- A matcher is made in error where no pattern can be compiled. -/
theorem isBroken_iff_of_ofPattern (made : ofPattern wanted = .ok matcher) :
    matcher.isBroken ↔ ¬CanCompile wanted := by
  cases wanted with
  | none =>
      cases made
      simp [isBroken, CanCompile]
  | some source =>
      cases result : Pattern.compile source with
      | ok compiled =>
          simp only [ofPattern, result] at made
          cases made
          simp [isBroken, CanCompile, result]
      | error failure =>
          cases failure <;> simp only [ofPattern, result] at made <;> cases made
          simp [isBroken, CanCompile, result]

/-- No matcher is made where the pattern fails in a way that is no error of it. -/
theorem ofPattern_eq_error_iff : ofPattern wanted = .error failure ↔
    ∃ source ∈ wanted, Pattern.compile source = .error failure ∧ ¬failure.IsRejection := by
  cases wanted with
  | none => simp [ofPattern]
  | some source =>
      cases result : Pattern.compile source with
      | ok compiled => simp [ofPattern, result]
      | error problem =>
          suffices same : ofPattern (some source) = .error failure ↔
              problem = failure ∧ ¬failure.IsRejection by simp [same, result]
          cases problem with
          | rejected error =>
              simp only [ofPattern, result, reduceCtorEq, false_iff]
              rintro ⟨rfl, isOther⟩
              exact isOther trivial
          | _ =>
              simp only [ofPattern, result, Except.error.injEq]
              exact ⟨fun same => ⟨same, same ▸ id⟩, And.left⟩

end Matcher

namespace Compiler

section

variable [Pattern.Edition]

/-- A compiler that answers with a failure is left as it was. -/
theorem asked_of_error {compiler : Compiler} {rule : Rule} {failure : Pattern.Failure}
    (failed : compiler.answer rule = .error failure) : compiler.asked rule = compiler := by
  unfold answer at failed
  unfold asked
  unfold compile at failed ⊢
  split at failed
  · contradiction
  · split at failed
    · contradiction
    · rfl

/-- A rule is answered with a matcher exactly if the pattern that is recalled for it fails by
nothing but an error of the pattern. The matcher is in error exactly if that pattern is missing or
cannot be compiled, and then it is silent. Any other failure leaves the compiler as it was, and is
found in the text of the pattern. -/
theorem answer_settled (compiler : Compiler) (past : List Rule) (rule : Rule) :
    let asked := past.foldl Compiler.asked compiler.clear
    let wanted := (rule.recalled past).pattern
    ((∃ matcher, asked.answer rule = .ok matcher) ↔
      ∀ source ∈ wanted, ∀ failure, Pattern.compile source = .error failure →
        failure.IsRejection) ∧
    (∀ matcher, asked.answer rule = .ok matcher →
      (matcher.isBroken ↔ ¬Matcher.CanCompile wanted) ∧ (matcher.isBroken → matcher.IsSilent)) ∧
    ∀ failure, asked.answer rule = .error failure →
      asked.asked rule = asked ∧
      ∃ source ∈ wanted, Pattern.compile source = .error failure ∧
        failure.IsFoundIn source.toList := by
  intro asked wanted
  have remembers : asked.Remembers past := (remembers_nil rfl).foldl_asked past
  have answered : asked.answer rule = Matcher.ofPattern wanted := remembers.answer_eq_recalled rule
  refine ⟨?_, fun matcher made => ?_, fun failure failed => ⟨asked_of_error failed, ?_⟩⟩
  · have failing (failure : Pattern.Failure) := @Matcher.ofPattern_eq_error_iff _ wanted failure
    rw [answered]
    cases made : Matcher.ofPattern wanted with
    | ok matcher =>
        refine iff_of_true ⟨matcher, rfl⟩ fun source isWanted failure fails => ?_
        by_contra isOther
        have failed := (failing failure).mpr ⟨source, isWanted, fails, isOther⟩
        exact nomatch made.symm.trans failed
    | error failure =>
        obtain ⟨source, isWanted, fails, isOther⟩ := (failing failure).mp made
        exact iff_of_false nofun fun all => isOther (all source isWanted failure fails)
  · exact ⟨Matcher.isBroken_iff_of_ofPattern (answered.symm.trans made),
      Matcher.isSilent_of_isBroken⟩
  · obtain ⟨source, isWanted, fails, -⟩ :=
      Matcher.ofPattern_eq_error_iff.mp (answered.symm.trans failed)
    exact ⟨source, isWanted, fails, Pattern.compile_failure fails⟩

end

/-- A count that is too large is no error of the pattern, and the rule is left without a matcher. -/
theorem large_count_not_answered :
    ({} : Compiler).answer { id := "r", pattern := some "a\x7b4294967295\x7d" } =
      .error .repeatTooLarge := by
  rw [answer_of_empty]
  cbv

end Compiler

end Rulebook
