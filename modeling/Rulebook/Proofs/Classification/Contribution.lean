import Rulebook.Proofs.Classification.Ranking
import Rulebook.Proofs.Sorting.Permutation

namespace Rulebook.Classification

variable [Pattern.Edition]

open Compiler

variable {α : Type} (scoring : Scoring α) (text : String) {rule : Rule}

variable {compiler first second : Compiler} {rules before after : List Rule}

theorem answersAlike_of_own (distinct : (rules.map Rule.id).Nodup) (own : first.AnswersOwn rules)
    (alsoOwn : second.AnswersOwn rules) : AnswersAlike text id first second rules := by
  induction rules generalizing first second with
  | nil => exact .done first second
  | cons rule rest ih =>
      obtain ⟨fresh, others⟩ := List.nodup_cons.mp distinct
      by_cases scored : isScored rule
      · have same : first.answer rule = second.answer rule := own.head.trans alsoOwn.head.symm
        exact .asked first second rule rest scored same fun _ _ =>
          ih others (own.asked fresh) (alsoOwn.asked fresh)
      · exact .passed first second rule rest scored
          (ih others own.tail alsoOwn.tail)

omit [Pattern.Edition] in
theorem keepsFiling_id : KeepsFiling id := ⟨fun _ => rfl, fun _ => rfl, fun _ => rfl⟩

theorem scoreAll_own (words : Nat) (best : List (Classification α))
    (distinct : (rules.map Rule.id).Nodup) (own : first.AnswersOwn rules)
    (alsoOwn : second.AnswersOwn rules) :
    (scoreAll scoring text words first best rules).1 =
      (scoreAll scoring text words second best rules).1 := by
  have same := scoreAll_congr scoring text keepsFiling_id words best
    (answersAlike_of_own text distinct own alsoOwn)
  rwa [List.map_id] at same

theorem classify_own (distinct : (rules.map Rule.id).Nodup) (own : compiler.AnswersOwn rules) :
    (classify scoring compiler text rules).1 = (classify scoring {} text rules).1 := by
  simp only [classify_eq, scoreAll_own scoring text _ _ distinct own (answersOwn_empty rules)]

theorem scoreAll_remove (words : Nat) (best : List (Classification α))
    (distinct : ((before ++ rule :: after).map Rule.id).Nodup)
    (own : compiler.AnswersOwn (before ++ rule :: after))
    (silent : isScored rule → hits text {} rule = .ok 0) :
    (scoreAll scoring text words compiler best (before ++ rule :: after)).1 =
      (scoreAll scoring text words compiler best (before ++ after)).1 := by
  induction before generalizing compiler best with
  | nil =>
      obtain ⟨fresh, others⟩ := List.nodup_cons.mp distinct
      by_cases scored : isScored rule
      · obtain ⟨category, weight, filed, weighed⟩ := isScored_iff.mp scored
        have counted := (hits_own text own List.mem_cons_self).trans (silent scored)
        rw [List.nil_append, List.nil_append, scoreAll_cons, filed, weighed]
        simp only [counted, afterHits]
        -- The rule leaves its matcher with the compiler, which changes no answer for the others.
        exact scoreAll_own scoring text words best others (own.asked fresh) own.tail
      · rw [List.nil_append, List.nil_append, scoreAll_unscored scoring text words compiler best scored]
  | cons other rest ih =>
      obtain ⟨fresh, others⟩ := List.nodup_cons.mp distinct
      rw [List.cons_append, List.cons_append]
      by_cases scored : isScored other
      · obtain ⟨category, weight, filed, weighed⟩ := isScored_iff.mp scored
        rw [scoreAll_cons, scoreAll_cons, filed, weighed]
        cases hits text compiler other with
        | error failure => rfl
        | ok count => exact ih _ others (own.asked fresh)
      · rw [scoreAll_unscored scoring text words compiler best scored,
          scoreAll_unscored scoring text words compiler best scored]
        exact ih best others own.tail

theorem classify_remove (distinct : ((before ++ rule :: after).map Rule.id).Nodup)
    (own : compiler.AnswersOwn (before ++ rule :: after))
    (silent : isScored rule → hits text {} rule = .ok 0) :
    (classify scoring compiler text (before ++ rule :: after)).1 =
      (classify scoring compiler text (before ++ after)).1 := by
  simp only [classify_eq, scoreAll_remove scoring text _ _ distinct own silent]

theorem scoreAll_failure {words : Nat} {best : List (Classification α)} {failure : Pattern.Failure}
    (distinct : (rules.map Rule.id).Nodup) (own : compiler.AnswersOwn rules)
    (failed : (scoreAll scoring text words compiler best rules).1 = .error failure) :
    ∃ rule ∈ rules, hits text {} rule = .error failure := by
  induction rules generalizing compiler best with
  | nil => contradiction
  | cons rule rest ih =>
      obtain ⟨fresh, others⟩ := List.nodup_cons.mp distinct
      by_cases scored : isScored rule
      · obtain ⟨category, weight, filed, weighed⟩ := isScored_iff.mp scored
        rw [scoreAll_cons, filed, weighed, hits_own text own List.mem_cons_self] at failed
        cases counted : hits text {} rule with
        | error problem =>
            simp only [counted] at failed
            exact ⟨rule, List.mem_cons_self, Except.error.inj failed ▸ counted⟩
        | ok count =>
            simp only [counted] at failed
            obtain ⟨other, member, fails⟩ := ih others (own.asked fresh) failed
            exact ⟨other, List.mem_cons_of_mem rule member, fails⟩
      · rw [scoreAll_unscored scoring text words compiler best scored] at failed
        obtain ⟨other, member, fails⟩ := ih others own.tail failed
        exact ⟨other, List.mem_cons_of_mem rule member, fails⟩

section Found

omit [Pattern.Edition]

variable {less : α → α → Bool} {found held : Classification α} {best founds : List (Classification α)}

theorem mem_of_mem_keepBest (member : held ∈ keepBest less found best) :
    held ∈ best ++ [found] := by
  rcases keepBest_cases less found best with ⟨-, kept⟩ | ⟨above, other, below, rfl, -, kept⟩
  · rwa [kept] at member
  · rw [kept] at member
    rcases List.mem_cons.mp (List.perm_middle.mem_iff.mp member) with rfl | isRest
    · split <;> simp
    · have isOld := List.perm_middle.mem_iff.mpr (List.mem_cons_of_mem other isRest)
      exact List.mem_append_left [found] isOld

theorem mem_of_mem_keepAll (member : held ∈ keepAll less best founds) :
    held ∈ best ++ founds := by
  induction founds generalizing best with
  | nil => simpa [keepAll] using member
  | cons found rest ih =>
      rw [List.append_cons]
      rcases List.mem_append.mp (ih member) with isKept | isRest
      · exact List.mem_append_left rest (mem_of_mem_keepBest isKept)
      · exact List.mem_append_right _ isRest

theorem mem_keepBest_of_sole (sole : ∀ other ∈ best ++ [found], other.category = held.category →
    other = held) (member : held ∈ best ++ [found]) : held ∈ keepBest less found best := by
  rcases keepBest_cases less found best with ⟨-, kept⟩ | ⟨above, other, below, rfl, same, kept⟩
  · rwa [kept]
  · rw [kept]
    by_cases isOther : held.category = other.category
    · -- Both are the one that is looked for, whichever of them stays.
      obtain rfl := sole other (by simp) isOther.symm
      obtain rfl := sole found (by simp) same.symm
      simp
    · rcases List.mem_append.mp member with isOld | isNew
      · rcases List.mem_cons.mp (List.perm_middle.mem_iff.mp isOld) with rfl | isRest
        · exact absurd rfl isOther
        · exact List.perm_middle.mem_iff.mpr (List.mem_cons_of_mem _ isRest)
      · exact absurd (List.mem_singleton.mp isNew ▸ same.symm) isOther

theorem mem_keepAll_of_sole (sole : ∀ other ∈ best ++ founds, other.category = held.category →
    other = held) (member : held ∈ best ++ founds) : held ∈ keepAll less best founds := by
  induction founds generalizing best with
  | nil => simpa [keepAll] using member
  | cons found rest ih =>
      rw [List.append_cons] at sole member
      refine ih (fun other isOther => sole other ?_) ?_
      · rcases List.mem_append.mp isOther with isKept | isRest
        · exact List.mem_append_left rest (mem_of_mem_keepBest isKept)
        · exact List.mem_append_right _ isRest
      · rcases List.mem_append.mp member with isOld | isRest
        · exact List.mem_append_left _ (mem_keepBest_of_sole
            (fun other isOther => sole other (List.mem_append_left rest isOther)) isOld)
        · exact List.mem_append_right _ isRest

end Found

variable {scoring text}

/-- The results are what is kept of what each rule gives alone. -/
theorem perm_of_classified {results : List (Classification α)} (distinct : (rules.map Rule.id).Nodup)
    (own : compiler.AnswersOwn rules)
    (ended : (classify scoring compiler text rules).1 = .ok results) :
    results.Perm (keepAll scoring.less [] (rules.filterMap (given scoring text))) := by
  rw [classify_own scoring text distinct own] at ended
  obtain ⟨-, rfl⟩ := (classify_eq_ok_iff distinct results).mp ended
  exact Sorting.descend_perm _ _

end Rulebook.Classification
