import Rulebook.Proofs.Sorting.Merge

/-!
Sorting is stable. The runs that wait to be merged hold together, from the first on, what has been
read of the list, elements of one rank in their order; no step of the sort loses that, whichever
neighbours it merges. How the powers of the boundaries and the limits of the merges come out does not
matter for it.
-/

namespace Rulebook.Sorting

variable {α β : Type} [LinearOrder β] {less : α → α → Bool} {rank : α → β} {isRanked : α → Prop}

/-- The elements of waiting runs, the last of which comes first. -/
def piled (runs : List (Pending α)) : List α := (runs.reverse.map (·.elements)).flatten

theorem piled_append (above below : List (Pending α)) :
    piled (above ++ below) = piled below ++ piled above := by
  simp [piled]

theorem piled_cons (last : Pending α) (runs : List (Pending α)) :
    piled (last :: runs) = piled runs ++ last.elements := by
  simp [piled]

/-- Waiting runs that hold the elements of a list. -/
structure Piles (rank : α → β) (isRanked : α → Prop) (elements : List α)
    (runs : List (Pending α)) : Prop where
  isRun : ∀ run ∈ runs, IsRun rank isRanked run.elements
  rearranges : Rearranges rank (piled runs) elements

variable {elements : List α}

theorem Piles.push {runs : List (Pending α)} {run : List α}
    (piles : Piles rank isRanked elements runs) (isRun : IsRun rank isRanked run)
    (start power : Nat) :
    Piles rank isRanked (elements ++ run) (⟨start, run, power⟩ :: runs) := by
  refine ⟨List.forall_mem_cons.mpr ⟨isRun, piles.isRun⟩, ?_⟩
  rw [piled_cons]
  exact piles.rearranges.append (.refl run)

theorem Piles.trans {runs : List (Pending α)} {others : List α}
    (piles : Piles rank isRanked elements runs) (same : Rearranges rank elements others) :
    Piles rank isRanked others runs :=
  ⟨piles.isRun, piles.rearranges.trans same⟩

theorem Piles.withPower {last : Pending α} {runs : List (Pending α)}
    (piles : Piles rank isRanked elements (last :: runs)) (power : Nat) :
    Piles rank isRanked elements ({ last with power } :: runs) := by
  refine ⟨List.forall_mem_cons.mpr (List.forall_mem_cons.mp piles.isRun), ?_⟩
  have same := piles.rearranges
  rwa [piled_cons] at same ⊢

theorem Piles.sorts_single {last : Pending α} (piles : Piles rank isRanked elements [last]) :
    Sorts rank isRanked elements last.elements := by
  refine ⟨piles.isRun last (List.mem_singleton_self last), ?_⟩
  have same := piles.rearranges
  rwa [piled_cons] at same

section Merging

variable (compares : Compares less rank isRanked)
include compares

theorem Piles.merge (above : List (Pending α)) {below : List (Pending α)} {first second : Pending α}
    (piles : Piles rank isRanked elements (above ++ second :: first :: below)) (limit : Nat) :
    Piles rank isRanked elements
      (above ++ (Pending.merge less limit first second).1 :: below) := by
  obtain ⟨isRun, rearranges⟩ := piles
  obtain ⟨aboveRuns, secondRun, firstRun, belowRuns⟩ :
      (∀ run ∈ above, IsRun rank isRanked run.elements) ∧
      IsRun rank isRanked second.elements ∧ IsRun rank isRanked first.elements ∧
      ∀ run ∈ below, IsRun rank isRanked run.elements := by
    simpa only [List.forall_mem_append, List.forall_mem_cons] using isRun
  obtain ⟨mergedRun, same⟩ := mergeRuns_sorts compares firstRun secondRun limit
  refine ⟨?_, ?_⟩
  · simp only [List.forall_mem_append, List.forall_mem_cons]
    exact ⟨aboveRuns, mergedRun, belowRuns⟩
  · simp only [piled_append, piled_cons] at rearranges ⊢
    have moved := ((Rearranges.refl (piled below)).append same).append (.refl (piled above))
    rw [← List.append_assoc (piled below)] at moved
    exact moved.trans rearranges

theorem Piles.settle {last : Pending α} {runs : List (Pending α)}
    (piles : Piles rank isRanked elements (last :: runs)) (power limit : Nat) :
    Piles rank isRanked elements (settle less power limit last runs).1 := by
  induction runs generalizing last limit with
  | nil => exact piles.withPower power
  | cons before rest ih =>
      rw [Sorting.settle]
      split
      · exact ih (piles.merge compares [] limit) _
      · exact piles.withPower power

end Merging

theorem length_settle (less : α → α → Bool) (power limit : Nat) (last : Pending α)
    (runs : List (Pending α)) :
    (settle less power limit last runs).1.length ≤ runs.length + 1 := by
  induction runs generalizing last limit with
  | nil => exact Nat.le_refl 1
  | cons before rest ih =>
      rw [settle]
      split
      · exact Nat.le_trans (ih _ _) (by simp)
      · exact Nat.le_refl _

section Sorted

variable (compares : Compares less rank isRanked)
include compares

theorem Piles.sorts_settleAll {fuel : Nat} (limit : Nat) {runs : List (Pending α)}
    (piles : Piles rank isRanked elements runs) (enough : runs.length ≤ fuel) :
    Sorts rank isRanked elements (settleAll less fuel limit runs) := by
  induction fuel generalizing limit runs with
  | zero =>
      obtain rfl := List.length_eq_zero_iff.mp (Nat.le_zero.mp enough)
      exact ⟨⟨fun element member => absurd member List.not_mem_nil, .nil⟩, piles.rearranges⟩
  | succ fuel ih =>
      match runs, piles, enough with
      | [], piles, _ =>
          exact ⟨⟨fun element member => absurd member List.not_mem_nil, .nil⟩, piles.rearranges⟩
      | [last], piles, _ =>
          have alone : settleAll less (fuel + 1) limit [last] = last.elements := by simp [settleAll]
          rw [alone]
          exact piles.sorts_single
      | [second, first], piles, _ =>
          exact (piles.merge compares [] limit).sorts_single
      | third :: second :: first :: rest, piles, enough =>
          rw [settleAll]
          split
          · exact ih _ (piles.merge compares [third] limit) (by simpa using enough)
          · exact ih _ (piles.merge compares [] limit) (by simpa using enough)

/-- All runs of a list are found, and there are not more of them than elements. -/
theorem Piles.gather (whole least : Nat) {fuel : Nat} (start limit : Nat)
    {runs : List (Pending α)} {more : List α} (piles : Piles rank isRanked elements runs)
    (ranked : ∀ element ∈ more, isRanked element) (enough : more.length ≤ fuel) :
    Piles rank isRanked (elements ++ more) (gather less whole least fuel start limit runs more).1 ∧
      (gather less whole least fuel start limit runs more).1.length ≤ runs.length + more.length := by
  induction fuel generalizing elements start limit runs more with
  | zero =>
      obtain rfl := List.length_eq_zero_iff.mp (Nat.le_zero.mp enough)
      rw [List.append_nil]
      exact ⟨piles, Nat.le_refl _⟩
  | succ fuel ih =>
      cases more with
      | nil =>
          rw [List.append_nil]
          exact ⟨piles, Nat.le_refl _⟩
      | cons element others =>
          let found := frontRunOf less least (element :: others)
          obtain ⟨isRun, same⟩ : Splits rank isRanked (element :: others) found.1 found.2 :=
            frontRunOf_splits compares least ranked
          have fewer : found.2.length < (element :: others).length :=
            length_frontRunOf_rest less least (List.cons_ne_nil _ _)
          -- Whatever runs remain of those that wait, the one that was found goes on top.
          have onward {settled : List (Pending α)} (limit : Nat)
              (piles : Piles rank isRanked elements settled)
              (few : settled.length ≤ runs.length) :
              Piles rank isRanked (elements ++ element :: others)
                  (gather less whole least fuel (start + found.1.length) limit
                    (⟨start, found.1, 0⟩ :: settled) found.2).1 ∧
                (gather less whole least fuel (start + found.1.length) limit
                    (⟨start, found.1, 0⟩ :: settled) found.2).1.length ≤
                  runs.length + (element :: others).length := by
            obtain ⟨gathered, count⟩ := ih (start + found.1.length) limit (piles.push isRun start 0)
              (fun other member => ranked other
                ((same.mem_iff other).mp (List.mem_append_right _ member)))
              (by omega)
            rw [List.append_assoc] at gathered
            refine ⟨gathered.trans ((Rearranges.refl elements).append same), ?_⟩
            rw [List.length_cons] at count
            omega
          cases runs with
          | nil => exact onward limit piles (Nat.le_refl 0)
          | cons last before =>
              exact onward _ (piles.settle compares _ limit) (length_settle less _ limit last before)

theorem ascend_sorts (elements : List α) (ranked : ∀ element ∈ elements, isRanked element) :
    Sorts rank isRanked elements (ascend less elements) := by
  have empty : Piles rank isRanked [] ([] : List (Pending α)) :=
    ⟨fun run member => absurd member List.not_mem_nil, .refl []⟩
  obtain ⟨piles, few⟩ := empty.gather compares elements.length (leastRun elements.length) 0
    Merge.worthwhile ranked (Nat.le_refl _)
  rw [List.nil_append] at piles
  exact piles.sorts_settleAll compares _ (by simpa using few)

/-- The greatest come first, and those of one rank are in their order. -/
theorem descend_sorts (elements : List α) (ranked : ∀ element ∈ elements, isRanked element) :
    Sorts (OrderDual.toDual ∘ rank) isRanked elements (descend less elements) := by
  obtain ⟨isRun, rearranges⟩ := ascend_sorts compares elements.reverse fun element member =>
    ranked element (List.mem_reverse.mp member)
  refine ⟨isRun.turned, fun value => ?_⟩
  have same := rearranges.reverse (OrderDual.ofDual value)
  rw [List.reverse_reverse] at same
  exact same

end Sorted

end Rulebook.Sorting
