import Rulebook.Pattern.Search
import Rulebook.Proofs.Running

namespace Rulebook.Pattern

variable [Edition] {pattern : Pattern} {text : Array Nat} {forbidden : Option Nat}
  {fuel start : Nat} {failure : Failure}

theorem searchAmong_failure {remaining : Nat}
    (failed : pattern.searchAmong text forbidden start remaining = .error failure) :
    failure = .reversedGroup := by
  induction remaining generalizing forbidden start with
  | zero => contradiction
  | succ remaining ih =>
      rw [searchAmong] at failed
      split at failed
      · split at failed
        · exact (Except.error.inj failed).symm
        · contradiction
      · exact ih failed

theorem searchFrom_failure (failed : pattern.searchFrom text forbidden start = .error failure) :
    failure = .reversedGroup := by
  rw [searchFrom] at failed
  split at failed
  · contradiction
  · exact searchAmong_failure failed

/-- Each match is counted with those that are found from its end on. -/
theorem countFrom_succ (pattern : Pattern) (text : Array Nat) (fuel : Nat) (forbidden : Option Nat)
    (start : Nat) :
    pattern.countFrom text (fuel + 1) forbidden start =
      match pattern.searchFrom text forbidden start with
      | .error failure => .error failure
      | .ok none => .ok 0
      | .ok (some (first, stop)) =>
          (pattern.countFrom text fuel (if first = stop then some stop else none) stop).map (· + 1) := by
  rw [countFrom]
  cases pattern.searchFrom text forbidden start with
  | error failure => rfl
  | ok found =>
      cases found with
      | none => rfl
      | some place =>
          obtain ⟨first, stop⟩ := place
          simp only [bind, Except.bind]
          cases pattern.countFrom text fuel (if first = stop then some stop else none) stop <;> rfl

theorem countFrom_failure (failed : pattern.countFrom text fuel forbidden start = .error failure) :
    failure = .reversedGroup := by
  induction fuel generalizing forbidden start with
  | zero => contradiction
  | succ fuel ih =>
      rw [countFrom_succ] at failed
      split at failed
      · rename_i problem searched
        exact Except.error.inj failed ▸ searchFrom_failure searched
      · contradiction
      · exact ih (except_map_eq_error.mp failed)

variable {text : String}

theorem count_failure (failed : pattern.count text = .error failure) : failure = .reversedGroup :=
  countFrom_failure failed

/-- A pattern whose matches are counted is found exactly if there are any. -/
theorem occursIn_of_count {hits : Nat} (counted : pattern.count text = .ok hits) :
    pattern.occursIn text = .ok (decide (0 < hits)) := by
  rw [count, countFrom_succ] at counted
  rw [occursIn]
  split at counted
  · contradiction
  · rename_i searched
    rw [searched, ← Except.ok.inj counted]
    rfl
  · rename_i first stop searched
    obtain ⟨more, -, rfl⟩ := except_map_eq_ok.mp counted
    rw [searched, decide_eq_true (Nat.succ_pos more)]
    rfl

end Rulebook.Pattern
