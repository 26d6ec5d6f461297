import Mathlib
import Rulebook.Sorting

namespace Rulebook.Sorting

section Ranks

variable {α β : Type} [LinearOrder β] {rank : α → β} {isRanked : α → Prop}
  {first second third more others : List α}

/-- Of the elements that are ranked, one is less than another if its rank is. -/
def Compares (less : α → α → Bool) (rank : α → β) (isRanked : α → Prop) : Prop :=
  ∀ first second, isRanked first → isRanked second →
    less first second = decide (rank first < rank second)

section Compares

variable {less : α → α → Bool} (compares : Compares less rank isRanked) {one other : α}
  (ranked : isRanked one) (alsoRanked : isRanked other)
include compares ranked alsoRanked

theorem Compares.less_iff : less one other = true ↔ rank one < rank other := by
  rw [compares one other ranked alsoRanked, decide_eq_true_iff]

theorem Compares.not_less_iff : (!less one other) = true ↔ rank other ≤ rank one := by
  rw [compares one other ranked alsoRanked, Bool.not_eq_true', decide_eq_false_iff_not, not_lt]

end Compares

/-- Ranked elements from the least rank to the greatest. -/
structure IsRun (rank : α → β) (isRanked : α → Prop) (elements : List α) : Prop where
  ranked : ∀ element ∈ elements, isRanked element
  ascends : elements.Pairwise fun before behind => rank before ≤ rank behind

/-- Two lists have the same elements, and those of each rank in the same order. -/
def Rearranges (rank : α → β) (first second : List α) : Prop :=
  ∀ value, first.filter (rank · = value) = second.filter (rank · = value)

/-- A list has what another has, in order, and elements of one rank as they were. -/
structure Sorts (rank : α → β) (isRanked : α → Prop) (elements sorted : List α) : Prop where
  isRun : IsRun rank isRanked sorted
  rearranges : Rearranges rank sorted elements

theorem IsRun.sublist (isRun : IsRun rank isRanked first) (part : second.Sublist first) :
    IsRun rank isRanked second :=
  ⟨fun element member => isRun.ranked element (part.subset member), isRun.ascends.sublist part⟩

theorem isRun_append_iff : IsRun rank isRanked (first ++ second) ↔
    IsRun rank isRanked first ∧ IsRun rank isRanked second ∧
      ∀ before ∈ first, ∀ behind ∈ second, rank before ≤ rank behind := by
  constructor
  · intro isRun
    obtain ⟨one, other, across⟩ := List.pairwise_append.mp isRun.ascends
    exact ⟨⟨fun element member => isRun.ranked element (List.mem_append_left _ member), one⟩,
      ⟨fun element member => isRun.ranked element (List.mem_append_right _ member), other⟩, across⟩
  · rintro ⟨one, other, across⟩
    refine ⟨fun element member => ?_, List.pairwise_append.mpr ⟨one.ascends, other.ascends, across⟩⟩
    exact (List.mem_append.mp member).elim (one.ranked element) (other.ranked element)

theorem IsRun.head_le {head : α} (isRun : IsRun rank isRanked (first ++ head :: second)) :
    ∀ element ∈ head :: second, rank head ≤ rank element := by
  intro element member
  obtain ⟨-, run, -⟩ := isRun_append_iff.mp isRun
  rcases List.mem_cons.mp member with rfl | behind
  · exact le_rfl
  · exact (List.pairwise_cons.mp run.ascends).1 element behind

namespace Rearranges

theorem refl (elements : List α) : Rearranges rank elements elements := fun _ => rfl

theorem symm (same : Rearranges rank first second) : Rearranges rank second first :=
  fun value => (same value).symm

theorem trans (same : Rearranges rank first second) (next : Rearranges rank second third) :
    Rearranges rank first third :=
  fun value => (same value).trans (next value)

theorem append (same : Rearranges rank first second) (also : Rearranges rank more others) :
    Rearranges rank (first ++ more) (second ++ others) := by
  intro value
  rw [List.filter_append, List.filter_append, same value, also value]

theorem reverse (same : Rearranges rank first second) :
    Rearranges rank first.reverse second.reverse := by
  intro value
  rw [List.filter_reverse, List.filter_reverse, same value]

theorem mem_iff (same : Rearranges rank first second) (element : α) :
    element ∈ first ↔ element ∈ second := by
  have found : element ∈ first.filter (rank · = rank element) ↔
      element ∈ second.filter (rank · = rank element) := by rw [same]
  simpa using found

/-- Lists without a rank in common can change places. -/
theorem swap (apart : ∀ one ∈ first, ∀ other ∈ second, rank one ≠ rank other) :
    Rearranges rank (first ++ second) (second ++ first) := by
  intro value
  rw [List.filter_append, List.filter_append]
  cases found : first.filter (rank · = value) with
  | nil => simp
  | cons one rest =>
      have member : one ∈ first.filter (rank · = value) := by simp [found]
      obtain ⟨isFirst, valued⟩ := List.mem_filter.mp member
      have none : second.filter (rank · = value) = [] := by
        refine List.filter_eq_nil_iff.mpr fun other isSecond => ?_
        rw [decide_eq_true_eq] at valued ⊢
        exact valued ▸ (apart one isFirst other isSecond).symm
      simp [none]

theorem perm (same : Rearranges rank first second) : first.Perm second := by
  classical
  refine List.perm_iff_count.mpr fun element => ?_
  have counted (elements : List α) :
      (elements.filter (rank · = rank element)).count element = elements.count element :=
    List.count_filter (by simp)
  rw [← counted first, same, counted]

theorem dual (same : Rearranges (OrderDual.toDual ∘ rank) first second) :
    Rearranges rank first second :=
  fun value => same (OrderDual.toDual value)

end Rearranges

/-- Elements of one rank are related as they were before sorting. -/
theorem Sorts.pairwise {R : α → α → Prop} (sorts : Sorts rank isRanked first second)
    (related : first.Pairwise R) :
    second.Pairwise fun before behind =>
      rank before < rank behind ∨ rank before = rank behind ∧ R before behind := by
  -- Two elements of one rank are among those that a filter finds in both lists.
  refine List.pairwise_iff_forall_sublist.mpr fun {before behind} pair => ?_
  rcases (List.pairwise_iff_forall_sublist.mp sorts.isRun.ascends pair).lt_or_eq with less | same
  · exact .inl less
  · refine .inr ⟨same, List.pairwise_iff_forall_sublist.mp related ?_⟩
    have kept := pair.filter (rank · = rank before)
    rw [sorts.rearranges, List.filter_cons_of_pos (by simp),
      List.filter_cons_of_pos (by simp [same]), List.filter_nil] at kept
    exact kept.trans List.filter_sublist

end Ranks

section Place

variable {α : Type} {passes : α → Bool} {elements : List α}

/-- The elements that pass come first. -/
def PassFirst (passes : α → Bool) (elements : List α) : Prop :=
  elements.Pairwise fun before behind => passes behind → passes before

/-- The elements that pass are those before a place. -/
def IsBound (passes : α → Bool) (elements : List α) (bound : Nat) : Prop :=
  bound ≤ elements.length ∧ ∀ index, (inside : index < elements.length) →
    (passes elements[index] ↔ index < bound)

theorem PassFirst.exists_bound (ordered : PassFirst passes elements) :
    ∃ bound, IsBound passes elements bound := by
  induction elements with
  | nil => exact ⟨0, Nat.le_refl 0, fun _ inside => absurd inside (Nat.not_lt_zero _)⟩
  | cons element rest ih =>
      obtain ⟨behind, tail⟩ := List.pairwise_cons.mp ordered
      by_cases passed : passes element
      · obtain ⟨bound, inside, holds⟩ := ih tail
        refine ⟨bound + 1, Nat.succ_le_succ inside, fun index isIndex => ?_⟩
        cases index with
        | zero => simpa using passed
        | succ index => simpa using holds index (Nat.lt_of_succ_lt_succ isIndex)
      · refine ⟨0, Nat.zero_le _, fun index isIndex => iff_of_false (fun passes => ?_) (by omega)⟩
        cases index with
        | zero => exact passed passes
        | succ index => exact passed (behind _ (List.getElem_mem _) passes)

theorem IsBound.front {bound : Nat} (isBound : IsBound passes elements bound) :
    ∀ element ∈ elements.take bound, passes element := by
  intro element member
  obtain ⟨index, inside, rfl⟩ := List.mem_take_iff_getElem.mp member
  exact (isBound.2 index (by omega)).mpr (by omega)

theorem IsBound.back {bound : Nat} (isBound : IsBound passes elements bound) :
    ∀ element ∈ elements.drop bound, ¬ passes element := by
  intro element member passed
  obtain ⟨index, inside, rfl⟩ := List.mem_drop_iff_getElem.mp member
  exact absurd ((isBound.2 (bound + index) (by omega)).mp passed) (by omega)

/-- Halving the places finds the bound that lies between them. -/
theorem halve_eq {bound : Nat} (isBound : IsBound passes elements bound) (early : Bool)
    {low high : Nat} (above : low ≤ bound) (below : bound ≤ high)
    (inside : high ≤ elements.length) : halve passes early elements low high = bound := by
  fun_induction halve passes early elements low high with
  | case1 low high isOpen middle element found passed ih =>
      obtain ⟨isIndex, same⟩ := List.getElem?_eq_some_iff.mp found
      have before : middle < bound := (isBound.2 middle isIndex).mp (same ▸ passed)
      exact ih (by omega) below inside
  | case2 low high isOpen middle element found failed ih =>
      obtain ⟨isIndex, same⟩ := List.getElem?_eq_some_iff.mp found
      have behind : ¬ middle < bound := fun before =>
        failed (same ▸ (isBound.2 middle isIndex).mpr before)
      exact ih above (by omega) (by omega)
  | case3 low high isOpen middle missing =>
      have outside := List.getElem?_eq_none_iff.mp missing
      omega
  | case4 low high isClosed => omega

/-- Steps of growing size end before and behind the bound. -/
theorem stride_bounds {bound : Nat} (isBound : IsBound passes elements bound) {fuel : Nat}
    (enough : 0 < fuel) (last next : Nat) (long : elements.length < next + fuel)
    (passed : last < bound) :
    (stride passes elements fuel last next).1 < bound ∧
      bound ≤ (stride passes elements fuel last next).2 ∧
      (stride passes elements fuel last next).2 ≤ elements.length := by
  induction fuel generalizing last next with
  | zero => omega
  | succ fuel ih =>
      rw [stride]
      cases found : elements[next]? with
      | none => exact ⟨passed, isBound.1, Nat.le_refl _⟩
      | some element =>
          obtain ⟨isIndex, same⟩ := List.getElem?_eq_some_iff.mp found
          by_cases passes : passes element
          · have before : next < bound := (isBound.2 next isIndex).mp (same ▸ passes)
            simpa only [if_pos passes] using ih (by omega) next _ (by omega) before
          · have behind : ¬ next < bound := fun before =>
              passes (same ▸ (isBound.2 next isIndex).mpr before)
            simp only [if_neg passes]
            exact ⟨passed, by omega, by omega⟩

theorem countFront_eq {bound : Nat} (isBound : IsBound passes elements bound) (early : Bool) :
    countFront passes early elements = bound := by
  unfold countFront
  cases elements with
  | nil => exact (Nat.le_zero.mp isBound.1).symm
  | cons first rest =>
      have opening := isBound.2 0 (Nat.succ_pos _)
      by_cases passed : passes first
      · have some : 0 < bound := opening.mp passed
        have long : (first :: rest).length < 1 + (first :: rest).length := by omega
        obtain ⟨below, above, inside⟩ := stride_bounds isBound (Nat.succ_pos _) 0 1 long some
        simp only [if_pos passed]
        exact halve_eq isBound early below above inside
      · have none : ¬ 0 < bound := fun some => passed (opening.mpr some)
        simp only [if_neg passed]
        omega

/-- The front that is counted holds the elements that pass, and no others. -/
theorem PassFirst.countFront (ordered : PassFirst passes elements) (early : Bool) :
    (∀ element ∈ elements.take (countFront passes early elements), passes element) ∧
      ∀ element ∈ elements.drop (Sorting.countFront passes early elements), ¬ passes element := by
  obtain ⟨bound, isBound⟩ := ordered.exists_bound
  rw [countFront_eq isBound early]
  exact ⟨isBound.front, isBound.back⟩

end Place

end Rulebook.Sorting
