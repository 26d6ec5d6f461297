import Rulebook.Proofs.Sorting.Run

namespace Rulebook.Sorting

variable {α β : Type} [LinearOrder β] {rank : α → β} {isRanked : α → Prop}

section Front

variable {less : α → α → Bool} (compares : Compares less rank isRanked) {elements : List α} {key : α}
  (isRun : IsRun rank isRanked elements) (ranked : isRanked key) (early : Bool)
include compares isRun ranked

theorem IsRun.countFront_notGreater :
    (∀ element ∈ elements.take (countFront (fun element => !less key element) early elements),
      rank element ≤ rank key) ∧
    ∀ element ∈ elements.drop (countFront (fun element => !less key element) early elements),
      rank key < rank element := by
  obtain ⟨front, back⟩ := (isRun.passFirst_notGreater compares ranked).countFront early
  refine ⟨fun element member => ?_, fun element member => not_le.mp fun notGreater => ?_⟩
  · have elementRanked := isRun.ranked element (List.mem_of_mem_take member)
    exact (compares.not_less_iff ranked elementRanked).mp (front element member)
  · have elementRanked := isRun.ranked element (List.mem_of_mem_drop member)
    exact back element member ((compares.not_less_iff ranked elementRanked).mpr notGreater)

theorem IsRun.passFirst_less : PassFirst (fun element => less element key) elements := by
  refine isRun.ascends.imp_of_mem fun {before behind} isBefore isBehind ascends passed => ?_
  have small := (compares.less_iff (isRun.ranked _ isBehind) ranked).mp passed
  exact (compares.less_iff (isRun.ranked _ isBefore) ranked).mpr (ascends.trans_lt small)

theorem IsRun.countFront_less :
    (∀ element ∈ elements.take (countFront (fun element => less element key) early elements),
      rank element < rank key) ∧
    ∀ element ∈ elements.drop (countFront (fun element => less element key) early elements),
      rank key ≤ rank element := by
  obtain ⟨front, back⟩ := (isRun.passFirst_less compares ranked).countFront early
  refine ⟨fun element member => ?_, fun element member => not_lt.mp fun isLess => ?_⟩
  · have elementRanked := isRun.ranked element (List.mem_of_mem_take member)
    exact (compares.less_iff elementRanked ranked).mp (front element member)
  · have elementRanked := isRun.ranked element (List.mem_of_mem_drop member)
    exact back element member ((compares.less_iff elementRanked ranked).mpr isLess)

end Front

namespace Merge

variable {beats : α → α → Bool} {merge : Merge α} {whole : List α}

/-- A merge that has come some way with the elements of a list. -/
structure OnWay (rank : α → β) (isRanked : α → Prop) (whole : List α) (merge : Merge α) :
    Prop where
  short : IsRun rank isRanked (merge.merged.reverse ++ merge.short)
  long : IsRun rank isRanked (merge.merged.reverse ++ merge.long)
  rearranges : Rearranges rank (merge.merged.reverse ++ (merge.short ++ merge.long)) whole
  last : ∀ final ∈ merge.short.getLast?, ∀ element ∈ merge.long, rank element < rank final

/-- What is still to be merged. -/
def remaining (merge : Merge α) : Nat := merge.short.length + merge.long.length

theorem OnWay.takeShort (onWay : merge.OnWay rank isRanked whole) (count : Nat)
    (isNext : ∀ one ∈ merge.short.take count, ∀ other ∈ merge.long, rank one ≤ rank other) :
    (merge.takeShort count).OnWay rank isRanked whole := by
  have merged : (merge.takeShort count).merged.reverse =
      merge.merged.reverse ++ merge.short.take count := by
    simp [Merge.takeShort]
  have short : (merge.takeShort count).merged.reverse ++ (merge.takeShort count).short =
      merge.merged.reverse ++ merge.short := by
    rw [merged, List.append_assoc]
    exact congrArg (merge.merged.reverse ++ ·) (List.take_append_drop count merge.short)
  refine ⟨short ▸ onWay.short, ?_, ?_, fun final isLast element member => ?_⟩
  · obtain ⟨before, behind, across⟩ := isRun_append_iff.mp onWay.long
    rw [merged]
    refine isRun_append_iff.mpr ⟨onWay.short.sublist ?_, behind, fun one isTaken other member => ?_⟩
    · exact (List.take_sublist count merge.short).append_left _
    · rcases List.mem_append.mp isTaken with earlier | now
      · exact across one earlier other member
      · exact isNext one now other member
  · rw [← List.append_assoc, short, List.append_assoc]
    exact onWay.rearranges
  · refine onWay.last final ?_ element member
    have dropped : (merge.short.drop count).getLast? = some final := isLast
    rw [List.getLast?_drop] at dropped
    split at dropped
    · contradiction
    · exact dropped

theorem OnWay.takeLong (onWay : merge.OnWay rank isRanked whole) (count : Nat)
    (isNext : ∀ one ∈ merge.long.take count, ∀ other ∈ merge.short, rank one < rank other) :
    (merge.takeLong count).OnWay rank isRanked whole := by
  have merged : (merge.takeLong count).merged.reverse =
      merge.merged.reverse ++ merge.long.take count := by
    simp [Merge.takeLong]
  have long : (merge.takeLong count).merged.reverse ++ (merge.takeLong count).long =
      merge.merged.reverse ++ merge.long := by
    rw [merged, List.append_assoc]
    exact congrArg (merge.merged.reverse ++ ·) (List.take_append_drop count merge.long)
  refine ⟨?_, long ▸ onWay.long, ?_, fun final isLast element member => ?_⟩
  · obtain ⟨before, behind, across⟩ := isRun_append_iff.mp onWay.short
    rw [merged]
    refine isRun_append_iff.mpr ⟨onWay.long.sublist ?_, behind, fun one isTaken other member => ?_⟩
    · exact (List.take_sublist count merge.long).append_left _
    · rcases List.mem_append.mp isTaken with earlier | now
      · exact across one earlier other member
      · exact (isNext one now other member).le
  · -- Elements that are less than all of the short run were taken from behind it.
    have moved : Rearranges rank (merge.long.take count ++ merge.short)
        (merge.short ++ merge.long.take count) :=
      .swap fun one isTaken other member => (isNext one isTaken other member).ne
    have around := (Rearranges.refl merge.merged.reverse).append
      (moved.append (.refl (merge.long.drop count)))
    rw [merged]
    change Rearranges rank (_ ++ (merge.short ++ merge.long.drop count)) whole
    simp only [List.append_assoc, List.take_append_drop] at around ⊢
    exact around.trans onWay.rearranges
  · exact onWay.last final isLast element (List.mem_of_mem_drop member)

/-- When a merge is over, only the last element of the short run can still be before the long one,
and it belongs behind it. -/
theorem OnWay.elements (onWay : merge.OnWay rank isRanked whole) (isOver : merge.isOver) :
    Sorts rank isRanked whole merge.elements := by
  obtain ⟨short, long, merged⟩ := merge
  obtain ⟨isShortRun, isLongRun, rearranges, last⟩ := onWay
  simp only [Merge.isOver, Bool.or_eq_true, List.isEmpty_iff, decide_eq_true_eq] at isOver
  change Sorts rank isRanked whole (merged.reverse ++ long ++ short)
  match short, isOver with
  | short, .inl isEmpty =>
      subst isEmpty
      simp only [List.append_nil] at rearranges ⊢
      exact ⟨isShortRun, rearranges⟩
  | [], .inr _ =>
      simp only [List.append_nil, List.nil_append] at rearranges ⊢
      exact ⟨isLongRun, rearranges⟩
  | [final], .inr _ =>
      have below : ∀ element ∈ long, rank element < rank final := last final rfl
      obtain ⟨-, alone, merged_le⟩ := isRun_append_iff.mp isShortRun
      refine ⟨isRun_append_iff.mpr ⟨isLongRun, alone, fun one isBefore other isFinal => ?_⟩, ?_⟩
      · rcases List.mem_append.mp isBefore with isMerged | isLong
        · exact merged_le one isMerged other isFinal
        · exact List.mem_singleton.mp isFinal ▸ (below one isLong).le
      · have moved : Rearranges rank (long ++ [final]) ([final] ++ long) :=
          .swap fun one isLong other isFinal =>
            List.mem_singleton.mp isFinal ▸ (below one isLong).ne
        rw [List.append_assoc]
        exact ((Rearranges.refl merged.reverse).append moved).trans rearranges
  | _ :: _ :: _, .inr few => exact absurd few (by simp)

theorem OnWay.shortHead_le (onWay : merge.OnWay rank isRanked whole) {head : α} {rest : List α}
    (isShort : merge.short = head :: rest) : ∀ element ∈ merge.short, rank head ≤ rank element := by
  have isRun := onWay.short
  rw [isShort] at isRun ⊢
  exact isRun.head_le

theorem OnWay.longHead_le (onWay : merge.OnWay rank isRanked whole) {head : α} {rest : List α}
    (isLong : merge.long = head :: rest) : ∀ element ∈ merge.long, rank head ≤ rank element := by
  have isRun := onWay.long
  rw [isLong] at isRun ⊢
  exact isRun.head_le

theorem OnWay.isRun_short (onWay : merge.OnWay rank isRanked whole) :
    IsRun rank isRanked merge.short :=
  (isRun_append_iff.mp onWay.short).2.1

theorem OnWay.isRun_long (onWay : merge.OnWay rank isRanked whole) :
    IsRun rank isRanked merge.long :=
  (isRun_append_iff.mp onWay.long).2.1

/-- What each of the two leaps keeps is kept as long as leaping goes on. -/
theorem leap_keeps {motive : Merge α → Prop} {backward : Bool}
    (short : ∀ merge, motive merge → motive (merge.leapShort beats backward).1)
    (long : ∀ merge, motive merge → motive (merge.leapLong beats backward).1)
    (fuel limit : Nat) (holds : motive merge) :
    motive (merge.leap beats backward fuel limit).1 := by
  induction fuel generalizing merge limit with
  | zero => exact holds
  | succ fuel ih =>
      cases backward with
      | false =>
          have once := short merge holds
          have twice := long _ once
          simp only [Merge.leap, Bool.false_eq_true, if_false]
          split_ifs
          · exact once
          · exact twice
          · exact ih _ twice
          · exact twice
      | true =>
          have once := long merge holds
          have twice := short _ once
          simp only [Merge.leap, if_true]
          split_ifs
          · exact once
          · exact twice
          · exact ih _ twice
          · exact twice

/-- The next of two elements is taken. -/
def takeNext (beats : α → α → Bool) (short long : α) (merge : Merge α) : Merge α :=
  if beats long short then merge.takeLong 1 else merge.takeShort 1

/-- A contest takes an element at a time, while there are elements of both runs. -/
theorem contest_cases (beats : α → α → Bool) (limit fuel shortWins longWins : Nat)
    (merge : Merge α) :
    (merge.isOver ∧ merge.contest beats limit (fuel + 1) shortWins longWins = merge) ∨
    ∃ short shortRest long longRest, merge.short = short :: shortRest ∧
      merge.long = long :: longRest ∧
      (merge.contest beats limit (fuel + 1) shortWins longWins = merge.takeNext beats short long ∨
        ∃ shortWon longWon, merge.contest beats limit (fuel + 1) shortWins longWins =
          (merge.takeNext beats short long).contest beats limit fuel shortWon longWon) := by
  obtain ⟨short, long, merged⟩ := merge
  match short, long with
  | [], _ => exact .inl ⟨by simp [Merge.isOver], rfl⟩
  | _ :: _, [] => exact .inl ⟨by simp [Merge.isOver], rfl⟩
  | short :: shortRest, long :: longRest =>
      refine .inr ⟨short, shortRest, long, longRest, rfl, rfl, ?_⟩
      by_cases wins : beats long short = true
      · simp only [Merge.contest, Merge.takeNext, wins, if_true]
        split
        · exact .inl rfl
        · exact .inr ⟨_, _, rfl⟩
      · simp only [Merge.contest, Merge.takeNext, wins, Bool.false_eq_true, if_false]
        split
        · exact .inl rfl
        · exact .inr ⟨_, _, rfl⟩

theorem contest_keeps {motive : Merge α → Prop}
    (next : ∀ (merge : Merge α) short shortRest long longRest, merge.short = short :: shortRest →
      merge.long = long :: longRest → motive merge → motive (merge.takeNext beats short long))
    (limit fuel shortWins longWins : Nat) (holds : motive merge) :
    motive (merge.contest beats limit fuel shortWins longWins) := by
  induction fuel generalizing merge shortWins longWins with
  | zero => exact holds
  | succ fuel ih =>
      rcases contest_cases beats limit fuel shortWins longWins merge with
        ⟨-, same⟩ | ⟨short, shortRest, long, longRest, isShort, isLong, same | ⟨_, _, same⟩⟩
      · exact same.symm ▸ holds
      · exact same ▸ next merge short shortRest long longRest isShort isLong holds
      · exact same ▸ ih _ _ (next merge short shortRest long longRest isShort isLong holds)

theorem finish_keeps {motive : Merge α → Prop} {backward : Bool}
    (contest : ∀ merge limit fuel, motive merge → motive (merge.contest beats limit fuel 0 0))
    (leap : ∀ merge fuel limit, motive merge → motive (merge.leap beats backward fuel limit).1)
    (fuel limit : Nat) (holds : motive merge) :
    motive (merge.finish beats backward fuel limit).1 := by
  induction fuel generalizing limit merge with
  | zero => exact holds
  | succ fuel ih =>
      have contested := contest merge limit (merge.short.length + merge.long.length) holds
      have leaped := leap _ (merge.short.length + merge.long.length) limit contested
      rw [Merge.finish]
      dsimp only
      split_ifs
      · exact holds
      · exact contested
      · exact leaped
      · exact ih _ leaped

/-- Whatever elements are taken, a property of merges is kept. -/
structure KeptByTaking (motive : Merge α → Prop) : Prop where
  short : ∀ merge count, motive merge → motive (merge.takeShort count)
  long : ∀ merge count, motive merge → motive (merge.takeLong count)

namespace KeptByTaking

variable {motive : Merge α → Prop} (kept : KeptByTaking motive)
include kept

theorem takeNext (short long : α) (holds : motive merge) :
    motive (merge.takeNext beats short long) := by
  unfold Merge.takeNext
  split
  · exact kept.long merge 1 holds
  · exact kept.short merge 1 holds

theorem leapShort (early : Bool) (holds : motive merge) :
    motive (merge.leapShort beats early).1 := by
  rw [Merge.leapShort]
  split
  · exact holds
  · dsimp only
    split
    · exact kept.short merge _ holds
    · exact kept.long _ 1 (kept.short merge _ holds)

theorem leapLong (early : Bool) (holds : motive merge) :
    motive (merge.leapLong beats early).1 := by
  rw [Merge.leapLong]
  split
  · exact holds
  · dsimp only
    split
    · exact kept.long merge _ holds
    · exact kept.short _ 1 (kept.long merge _ holds)

theorem contest (limit fuel shortWins longWins : Nat) (holds : motive merge) :
    motive (merge.contest beats limit fuel shortWins longWins) :=
  contest_keeps (motive := motive) (fun _ short _ long _ _ _ => kept.takeNext short long)
    limit fuel shortWins longWins holds

theorem leap (backward : Bool) (fuel limit : Nat) (holds : motive merge) :
    motive (merge.leap beats backward fuel limit).1 :=
  leap_keeps (fun _ => kept.leapShort backward) (fun _ => kept.leapLong backward) fuel limit holds

theorem finish (backward : Bool) (fuel limit : Nat) (holds : motive merge) :
    motive (merge.finish beats backward fuel limit).1 :=
  finish_keeps (fun _ limit fuel => kept.contest limit fuel 0 0) (fun _ => kept.leap backward)
    fuel limit holds

end KeptByTaking

section Steps

variable (compares : Compares beats rank isRanked)
include compares

theorem OnWay.takeNext (onWay : merge.OnWay rank isRanked whole) {short long : α}
    {shortRest longRest : List α} (isShort : merge.short = short :: shortRest)
    (isLong : merge.long = long :: longRest) :
    (merge.takeNext beats short long).OnWay rank isRanked whole := by
  have shortRanked := onWay.isRun_short.ranked short (by simp [isShort])
  have longRanked := onWay.isRun_long.ranked long (by simp [isLong])
  unfold Merge.takeNext
  split
  · rename_i wins
    refine onWay.takeLong 1 fun one isTaken other member => ?_
    obtain rfl : one = long := by simpa [isLong] using isTaken
    exact ((compares.less_iff longRanked shortRanked).mp wins).trans_le
      (onWay.shortHead_le isShort other member)
  · rename_i loses
    refine onWay.takeShort 1 fun one isTaken other member => ?_
    obtain rfl : one = short := by simpa [isShort] using isTaken
    exact ((compares.not_less_iff longRanked shortRanked).mp (by simpa using loses)).trans
      (onWay.longHead_le isLong other member)

theorem OnWay.contest (onWay : merge.OnWay rank isRanked whole)
    (limit fuel shortWins longWins : Nat) :
    (merge.contest beats limit fuel shortWins longWins).OnWay rank isRanked whole :=
  contest_keeps (fun _ _ _ _ _ isShort isLong onWay => onWay.takeNext compares isShort isLong)
    limit fuel shortWins longWins onWay

theorem OnWay.leapShort (onWay : merge.OnWay rank isRanked whole) (early : Bool) :
    (merge.leapShort beats early).1.OnWay rank isRanked whole := by
  rw [Merge.leapShort]
  cases isLong : merge.long with
  | nil => exact onWay
  | cons key rest =>
      have keyRanked := onWay.isRun_long.ranked key (by simp [isLong])
      obtain ⟨front_le, lt_back⟩ :=
        onWay.isRun_short.countFront_notGreater compares keyRanked early
      have taken := onWay.takeShort _ fun one isTaken other member =>
        (front_le one isTaken).trans (onWay.longHead_le isLong other member)
      dsimp only
      split
      · exact taken
      · refine taken.takeLong 1 fun one isTaken other member => ?_
        obtain rfl : one = key := by simpa [Merge.takeShort, isLong] using isTaken
        exact lt_back other member

theorem OnWay.leapLong (onWay : merge.OnWay rank isRanked whole) (early : Bool) :
    (merge.leapLong beats early).1.OnWay rank isRanked whole := by
  rw [Merge.leapLong]
  cases isShort : merge.short with
  | nil => exact onWay
  | cons key rest =>
      have keyRanked := onWay.isRun_short.ranked key (by simp [isShort])
      obtain ⟨front_lt, le_back⟩ := onWay.isRun_long.countFront_less compares keyRanked early
      have taken := onWay.takeLong _ fun one isTaken other member =>
        (front_lt one isTaken).trans_le (onWay.shortHead_le isShort other member)
      dsimp only
      split
      · exact taken
      · refine taken.takeShort 1 fun one isTaken other member => ?_
        obtain rfl : one = key := by simpa [Merge.takeLong, isShort] using isTaken
        exact le_back other member

theorem OnWay.leap (onWay : merge.OnWay rank isRanked whole) (backward : Bool) (fuel limit : Nat) :
    (merge.leap beats backward fuel limit).1.OnWay rank isRanked whole :=
  leap_keeps (fun _ onWay => onWay.leapShort compares backward)
    (fun _ onWay => onWay.leapLong compares backward) fuel limit onWay

end Steps

theorem remaining_takeShort (merge : Merge α) (count : Nat) :
    (merge.takeShort count).remaining ≤ merge.remaining := by
  simp only [remaining, Merge.takeShort, List.length_drop]
  omega

theorem remaining_takeLong (merge : Merge α) (count : Nat) :
    (merge.takeLong count).remaining ≤ merge.remaining := by
  simp only [remaining, Merge.takeLong, List.length_drop]
  omega

theorem keptByTaking_remaining (bound : Nat) :
    KeptByTaking fun merge : Merge α => merge.remaining ≤ bound :=
  ⟨fun merge count below => (remaining_takeShort merge count).trans below,
    fun merge count below => (remaining_takeLong merge count).trans below⟩

theorem remaining_contest (beats : α → α → Bool) (limit fuel shortWins longWins : Nat)
    (merge : Merge α) :
    (merge.contest beats limit fuel shortWins longWins).remaining ≤ merge.remaining :=
  (keptByTaking_remaining merge.remaining).contest limit fuel shortWins longWins (Nat.le_refl _)

theorem remaining_leap (beats : α → α → Bool) (backward : Bool) (fuel limit : Nat)
    (merge : Merge α) : (merge.leap beats backward fuel limit).1.remaining ≤ merge.remaining :=
  (keptByTaking_remaining merge.remaining).leap backward fuel limit (Nat.le_refl _)

theorem remaining_takeNext (beats : α → α → Bool) {short long : α} {shortRest longRest : List α}
    {merge : Merge α} (isShort : merge.short = short :: shortRest)
    (isLong : merge.long = long :: longRest) :
    (merge.takeNext beats short long).remaining < merge.remaining := by
  unfold takeNext
  split <;> simp [remaining, Merge.takeLong, Merge.takeShort, isShort, isLong]

theorem contest_goesOn (beats : α → α → Bool) (limit : Nat) {fuel : Nat} (merge : Merge α)
    (enough : 0 < fuel) (isOpen : merge.isOver = false) :
    (merge.contest beats limit fuel 0 0).remaining < merge.remaining := by
  obtain ⟨fuel, rfl⟩ := Nat.exists_eq_add_one.mpr enough
  rcases contest_cases beats limit fuel 0 0 merge with
    ⟨isOver, -⟩ | ⟨short, shortRest, long, longRest, isShort, isLong, same | ⟨_, _, same⟩⟩
  · exact absurd isOver (Bool.eq_false_iff.mp isOpen)
  · exact same ▸ remaining_takeNext beats isShort isLong
  · exact same ▸ Nat.lt_of_le_of_lt (remaining_contest beats limit fuel _ _ _)
      (remaining_takeNext beats isShort isLong)

theorem isOver_finish (beats : α → α → Bool) (backward : Bool) {fuel : Nat} (limit : Nat)
    (merge : Merge α) (enough : merge.remaining ≤ fuel) :
    (merge.finish beats backward fuel limit).1.isOver := by
  -- A round takes an element at least, so there is fuel for as many rounds as are needed.
  induction fuel generalizing limit merge with
  | zero =>
      have empty : merge.long = [] := by
        simp only [remaining] at enough
        exact List.length_eq_zero_iff.mp (by omega)
      simp [Merge.finish, Merge.isOver, empty]
  | succ fuel ih =>
      rw [Merge.finish]
      split
      · assumption
      · rename_i isOpen
        rw [Bool.not_eq_true] at isOpen
        have some : 0 < merge.short.length + merge.long.length := by
          simp only [Merge.isOver, Bool.or_eq_false_iff, decide_eq_false_iff_not] at isOpen
          omega
        have goesOn := contest_goesOn beats limit merge some isOpen
        have leaps := remaining_leap beats backward (merge.short.length + merge.long.length) limit
          (merge.contest beats limit (merge.short.length + merge.long.length) 0 0)
        dsimp only
        split
        · assumption
        · split
          · assumption
          · exact ih _ _ (by omega)

theorem OnWay.finish (compares : Compares beats rank isRanked)
    (onWay : merge.OnWay rank isRanked whole) (backward : Bool) (fuel limit : Nat) :
    (merge.finish beats backward fuel limit).1.OnWay rank isRanked whole :=
  finish_keeps (fun _ limit fuel onWay => onWay.contest compares limit fuel 0 0)
    (fun _ fuel limit onWay => onWay.leap compares backward fuel limit) fuel limit onWay

theorem OnWay.sorts_finish (compares : Compares beats rank isRanked)
    (onWay : merge.OnWay rank isRanked whole) (backward : Bool) {fuel : Nat} (limit : Nat)
    (enough : merge.remaining ≤ fuel) :
    Sorts rank isRanked whole (merge.finish beats backward fuel limit).1.elements :=
  (onWay.finish compares backward fuel limit).elements
    (isOver_finish beats backward limit merge enough)

end Merge

-- From the other end, the order is the other way round.

section Turned

variable {elements sorted : List α}

theorem Compares.turned {less : α → α → Bool} (compares : Compares less rank isRanked) :
    Compares (fun one other => less other one) (OrderDual.toDual ∘ rank) isRanked :=
  fun one other ranked alsoRanked => compares other one alsoRanked ranked

theorem IsRun.turned (isRun : IsRun rank isRanked elements) :
    IsRun (OrderDual.toDual ∘ rank) isRanked elements.reverse :=
  ⟨fun element member => isRun.ranked element (List.mem_reverse.mp member),
    List.pairwise_reverse.mpr isRun.ascends⟩

theorem IsRun.head?_le {head : α} (isRun : IsRun rank isRanked elements)
    (isHead : elements.head? = some head) : ∀ element ∈ elements, rank head ≤ rank element := by
  obtain ⟨rest, rfl⟩ := List.head?_eq_some_iff.mp isHead
  rw [← List.nil_append (head :: rest)] at isRun
  exact isRun.head_le

theorem IsRun.le_getLast? {final : α} (isRun : IsRun rank isRanked elements)
    (isLast : elements.getLast? = some final) :
    ∀ element ∈ elements, rank element ≤ rank final := fun element member =>
  isRun.turned.head?_le (by rwa [List.head?_reverse]) element (List.mem_reverse.mpr member)

theorem Sorts.turned (sorts : Sorts (OrderDual.toDual ∘ rank) isRanked elements.reverse sorted) :
    Sorts rank isRanked elements sorted.reverse := by
  obtain ⟨⟨ranked, ascends⟩, rearranges⟩ := sorts
  refine ⟨⟨fun element member => ranked element (List.mem_reverse.mp member), ?_⟩, ?_⟩
  · exact List.pairwise_reverse.mpr ascends
  · have back := rearranges.dual.reverse
    rwa [List.reverse_reverse] at back

end Turned

section Parts

variable {first second front rest body back merged : List α}

theorem sorts_append (isFirst : IsRun rank isRanked first) (isSecond : IsRun rank isRanked second)
    (across : ∀ before ∈ first, ∀ behind ∈ second, rank before ≤ rank behind) :
    Sorts rank isRanked (first ++ second) (first ++ second) :=
  ⟨isRun_append_iff.mpr ⟨isFirst, isSecond, across⟩, .refl _⟩

/-- What is in place at both ends is set aside, and the rest sorted. -/
theorem Sorts.between (sorts : Sorts rank isRanked (rest ++ body) merged)
    (isFirst : IsRun rank isRanked (front ++ rest)) (isSecond : IsRun rank isRanked (body ++ back))
    (front_le : ∀ before ∈ front, ∀ behind ∈ body ++ back, rank before ≤ rank behind)
    (le_back : ∀ before ∈ front ++ rest, ∀ behind ∈ back, rank before ≤ rank behind) :
    Sorts rank isRanked (front ++ rest ++ (body ++ back)) (front ++ merged ++ back) := by
  obtain ⟨isRun, rearranges⟩ := sorts
  obtain ⟨frontRun, -, front_le_rest⟩ := isRun_append_iff.mp isFirst
  obtain ⟨-, backRun, body_le_back⟩ := isRun_append_iff.mp isSecond
  have origin (element : α) (member : element ∈ merged) : element ∈ rest ∨ element ∈ body :=
    List.mem_append.mp ((rearranges.mem_iff element).mp member)
  constructor
  · refine isRun_append_iff.mpr ⟨isRun_append_iff.mpr ⟨frontRun, isRun, ?_⟩, backRun, ?_⟩
    · intro before isBefore behind isMerged
      rcases origin behind isMerged with isRest | isBody
      · exact front_le_rest before isBefore behind isRest
      · exact front_le before isBefore behind (List.mem_append_left _ isBody)
    · intro before isBefore behind isBack
      rcases List.mem_append.mp isBefore with isFront | isMerged
      · exact front_le before isFront behind (List.mem_append_right _ isBack)
      · rcases origin before isMerged with isRest | isBody
        · exact le_back before (List.mem_append_right _ isRest) behind isBack
        · exact body_le_back before isBody behind isBack
  · have around := ((Rearranges.refl front).append rearranges).append (.refl back)
    simpa only [List.append_assoc] using around

end Parts

section Runs

variable {less : α → α → Bool} (compares : Compares less rank isRanked) {first second : List α}
include compares

/-- Two runs are merged from either end if the second one begins below the first and ends below its
last element. -/
theorem mergeFrom_sorts (isFirst : IsRun rank isRanked first) (isSecond : IsRun rank isRanked second)
    (heads : ∀ head ∈ second.head?, ∀ element ∈ first, rank head < rank element)
    (lasts : ∀ final ∈ first.getLast?, ∀ element ∈ second, rank element < rank final)
    (limit : Nat) : Sorts rank isRanked (first ++ second) (mergeFrom less limit first second).1 := by
  unfold mergeFrom
  dsimp only
  split
  · let start : Merge α := ⟨first, second, []⟩
    have onWay : start.OnWay rank isRanked (first ++ second) :=
      ⟨isFirst, isSecond, .refl _, lasts⟩
    have begun := onWay.takeLong 1 fun one isTaken other member =>
      heads one (by simpa [start, List.take_one] using isTaken) other member
    exact begun.sorts_finish compares false limit (Merge.remaining_takeLong start 1)
  · -- From behind it is the same merge, with both runs and the order turned round.
    let start : Merge α := ⟨second.reverse, first.reverse, []⟩
    have onWay : start.OnWay (OrderDual.toDual ∘ rank) isRanked (first ++ second).reverse := by
      refine ⟨isSecond.turned, isFirst.turned, ?_, fun head isHead element member => ?_⟩
      · rw [List.reverse_append]
        exact .refl _
      · exact heads head (by simpa [start] using isHead) element (List.mem_reverse.mp member)
    have begun := onWay.takeLong 1 fun one isTaken other member =>
      lasts one (by simpa [start, List.take_one] using isTaken) other (List.mem_reverse.mp member)
    refine (begun.sorts_finish compares.turned true limit ?_).turned
    refine Nat.le_trans (Merge.remaining_takeLong start 1) ?_
    simp [Merge.remaining, start, Nat.add_comm]

theorem IsRun.countBack_notLess {key : α} (isRun : IsRun rank isRanked second)
    (ranked : isRanked key) (early : Bool) :
    (∀ element ∈ second.take (second.length -
        countFront (fun element => !less element key) early second.reverse),
      rank element < rank key) ∧
    ∀ element ∈ second.drop (second.length -
        countFront (fun element => !less element key) early second.reverse),
      rank key ≤ rank element := by
  obtain ⟨back, body⟩ := isRun.turned.countFront_notGreater compares.turned ranked early
  rw [List.take_reverse] at back
  rw [List.drop_reverse] at body
  exact ⟨fun element member => body element (List.mem_reverse.mpr member),
    fun element member => back element (List.mem_reverse.mpr member)⟩

theorem mergeRuns_sorts (isFirst : IsRun rank isRanked first)
    (isSecond : IsRun rank isRanked second) (limit : Nat) :
    Sorts rank isRanked (first ++ second) (mergeRuns less limit first second).1 := by
  unfold mergeRuns
  split
  · rename_i low high isLow isHigh
    have low_le := isSecond.head?_le isLow
    have le_high := isFirst.le_getLast? isHigh
    obtain ⟨front_le, lt_rest⟩ := isFirst.countFront_notGreater compares
      (isSecond.ranked low (List.mem_of_mem_head? isLow)) false
    obtain ⟨body_lt, le_back⟩ := isSecond.countBack_notLess compares
      (isFirst.ranked high (List.mem_of_getLast? isHigh)) true
    dsimp only
    generalize countFront _ false first = front at *
    generalize second.length - countFront _ true second.reverse = size at *
    have firstParts := List.take_append_drop front first
    have secondParts := List.take_append_drop size second
    split
    · rename_i inPlace
      refine sorts_append isFirst isSecond fun before isBefore behind isBehind => ?_
      rcases Bool.or_eq_true_iff.mp inPlace with isEmpty | isNone
      · rw [List.isEmpty_iff.mp isEmpty, List.append_nil] at firstParts
        exact (front_le before (firstParts.symm ▸ isBefore)).trans (low_le behind isBehind)
      · rw [of_decide_eq_true isNone, List.drop_zero] at le_back
        exact (le_high before isBefore).trans (le_back behind isBehind)
    · have heads : ∀ head ∈ (second.take size).head?, ∀ element ∈ first.drop front,
          rank head < rank element := by
        intro head isHead element member
        obtain ⟨tail, taken⟩ := List.head?_eq_some_iff.mp isHead
        rw [← secondParts, taken] at isLow
        obtain rfl : head = low := Option.some.inj isLow
        exact lt_rest element member
      have lasts : ∀ final ∈ (first.drop front).getLast?, ∀ element ∈ second.take size,
          rank element < rank final := by
        intro final isFinal element member
        obtain ⟨tail, dropped⟩ := List.getLast?_eq_some_iff.mp isFinal
        rw [← firstParts, dropped, ← List.append_assoc, List.getLast?_concat] at isHigh
        obtain rfl : final = high := Option.some.inj isHigh
        exact body_lt element member
      rw [← firstParts] at isFirst le_high
      rw [← secondParts] at isSecond low_le
      have merged := mergeFrom_sorts compares (isRun_append_iff.mp isFirst).2.1
        (isRun_append_iff.mp isSecond).1 heads lasts limit
      have whole := merged.between isFirst isSecond
        (fun before isBefore behind isBehind =>
          (front_le before isBefore).trans (low_le behind isBehind))
        (fun before isBefore behind isBehind =>
          (le_high before isBefore).trans (le_back behind isBehind))
      rwa [firstParts, secondParts] at whole
  · rename_i missing
    refine sorts_append isFirst isSecond fun before isBefore behind isBehind => ?_
    obtain ⟨low, isLow⟩ : ∃ low, second.head? = some low :=
      ⟨_, List.head?_eq_some_head (List.ne_nil_of_mem isBehind)⟩
    obtain ⟨high, isHigh⟩ : ∃ high, first.getLast? = some high :=
      ⟨_, List.getLast?_eq_some_getLast (List.ne_nil_of_mem isBefore)⟩
    exact absurd isHigh (missing low high isLow)

end Runs

end Rulebook.Sorting
