import Rulebook.Proofs.Sorting.Order

namespace Rulebook.Sorting

variable {α β : Type} [LinearOrder β] {less : α → α → Bool} {rank : α → β} {isRanked : α → Prop}

/-- The place of an element is found like a bound in a merge. -/
theorem place_eq_halve (less : α → α → Bool) (pivot : α) (sorted : List α) (low high : Nat) :
    place less pivot sorted low high =
      halve (fun element => !less pivot element) false sorted low high := by
  have halves (low high : Nat) (isOpen : low < high) :
      low + (high - low - if false = true then 1 else 0) / 2 = (low + high) / 2 := by
    simp only [Bool.false_eq_true, if_false]
    omega
  fun_induction place less pivot sorted low high with
  | case1 low high isOpen middle element found passed ih =>
      rw [halve, dif_pos isOpen]
      simp only [halves low high isOpen]
      rw [show sorted[(low + high) / 2]? = some element from found]
      simpa [passed] using ih
  | case2 low high isOpen middle element found failed ih =>
      rw [halve, dif_pos isOpen]
      simp only [halves low high isOpen]
      rw [show sorted[(low + high) / 2]? = some element from found]
      simpa [failed] using ih
  | case3 low high isOpen middle missing =>
      rw [halve, dif_pos isOpen]
      simp only [halves low high isOpen]
      rw [show sorted[(low + high) / 2]? = none from missing]
  | case4 low high isClosed => rw [halve, dif_neg isClosed]

theorem IsRun.passFirst_notGreater (compares : Compares less rank isRanked) {elements : List α}
    {key : α} (isRun : IsRun rank isRanked elements) (ranked : isRanked key) :
    PassFirst (fun element => !less key element) elements := by
  refine isRun.ascends.imp_of_mem fun {before behind} isBefore isBehind ascends passed => ?_
  have small := (compares.not_less_iff ranked (isRun.ranked _ isBehind)).mp passed
  exact (compares.not_less_iff ranked (isRun.ranked _ isBefore)).mpr (ascends.trans small)

/-- An element goes behind those of a run that are not greater. -/
theorem insert_sorts (compares : Compares less rank isRanked) {sorted : List α} {pivot : α}
    (isRun : IsRun rank isRanked sorted) (ranked : isRanked pivot) :
    Sorts rank isRanked (sorted ++ [pivot]) (insert less sorted pivot) := by
  obtain ⟨bound, isBound⟩ := (isRun.passFirst_notGreater compares ranked).exists_bound
  have placed : place less pivot sorted 0 sorted.length = bound := by
    rw [place_eq_halve]
    exact halve_eq isBound false (Nat.zero_le _) isBound.1 (Nat.le_refl _)
  have split : sorted.take bound ++ sorted.drop bound = sorted := List.take_append_drop bound sorted
  obtain ⟨front, back, across⟩ := isRun_append_iff.mp (split.symm ▸ isRun)
  have small : ∀ element ∈ sorted.take bound, rank element ≤ rank pivot := fun element member =>
    (compares.not_less_iff ranked (front.ranked element member)).mp (isBound.front element member)
  have large : ∀ element ∈ sorted.drop bound, rank pivot < rank element := fun element member =>
    not_le.mp fun notGreater => isBound.back element member
      ((compares.not_less_iff ranked (back.ranked element member)).mpr notGreater)
  have inserted : insert less sorted pivot = sorted.take bound ++ ([pivot] ++ sorted.drop bound) := by
    rw [insert, placed]
    rfl
  rw [inserted]
  constructor
  · have alone : IsRun rank isRanked [pivot] :=
      ⟨fun element member => List.mem_singleton.mp member ▸ ranked, List.pairwise_singleton _ _⟩
    refine isRun_append_iff.mpr ⟨front, isRun_append_iff.mpr ⟨alone, back, ?_⟩, ?_⟩
    · intro element isPivot other member
      exact List.mem_singleton.mp isPivot ▸ (large other member).le
    · intro element member other isBehind
      rcases List.mem_append.mp isBehind with isPivot | isBack
      · exact List.mem_singleton.mp isPivot ▸ small element member
      · exact across element member other isBack
  · have apart : Rearranges rank ([pivot] ++ sorted.drop bound) (sorted.drop bound ++ [pivot]) :=
      .swap fun element isPivot other member =>
        List.mem_singleton.mp isPivot ▸ (large other member).ne
    have moved := (Rearranges.refl (sorted.take bound)).append apart
    rwa [← List.append_assoc (sorted.take bound) (sorted.drop bound), split] at moved

theorem ascending_append (less : α → α → Bool) (last : α) (elements : List α) :
    (ascending less last elements).1 ++ (ascending less last elements).2 = elements := by
  induction elements generalizing last with
  | nil => rfl
  | cons element rest ih =>
      rw [ascending]
      split
      · rfl
      · exact congrArg (element :: ·) (ih element)

theorem descending_append (less : α → α → Bool) (last : α) (elements : List α) :
    (descending less last elements).1 ++ (descending less last elements).2 = elements := by
  induction elements generalizing last with
  | nil => rfl
  | cons element rest ih =>
      rw [descending]
      split
      · exact congrArg (element :: ·) (ih element)
      · rfl

theorem pairwise_prepend {R : α → α → Prop} (trans : ∀ {one other third}, R one other →
    R other third → R one third) {first second : α} {rest : List α} (step : R first second)
    (tail : (second :: rest).Pairwise R) : (first :: second :: rest).Pairwise R := by
  have : IsTrans α R := ⟨fun _ _ _ => trans⟩
  exact tail.cons_cons_of_trans step

theorem ascending_ascends (compares : Compares less rank isRanked) {last : α} {elements : List α}
    (ranked : ∀ element ∈ last :: elements, isRanked element) :
    (last :: (ascending less last elements).1).Pairwise fun before behind =>
      rank before ≤ rank behind := by
  induction elements generalizing last with
  | nil => exact List.pairwise_singleton _ _
  | cons element rest ih =>
      obtain ⟨lastRanked, elementRanked, -⟩ := List.forall_mem_cons.mp ranked |>.imp_right
        List.forall_mem_cons.mp
      rw [ascending]
      split
      · exact List.pairwise_singleton _ _
      · rename_i notLess
        have rises : rank last ≤ rank element :=
          (compares.not_less_iff elementRanked lastRanked).mp (by simpa using notLess)
        have tail := ih fun other member => ranked other (List.mem_cons_of_mem last member)
        exact pairwise_prepend (fun one other => one.trans other) rises tail

theorem descending_falls (compares : Compares less rank isRanked) {last : α} {elements : List α}
    (ranked : ∀ element ∈ last :: elements, isRanked element) :
    (last :: (descending less last elements).1).Pairwise fun before behind =>
      rank behind < rank before := by
  induction elements generalizing last with
  | nil => exact List.pairwise_singleton _ _
  | cons element rest ih =>
      obtain ⟨lastRanked, elementRanked, -⟩ := List.forall_mem_cons.mp ranked |>.imp_right
        List.forall_mem_cons.mp
      rw [descending]
      split
      · rename_i isLess
        have falls : rank element < rank last := (compares.less_iff elementRanked lastRanked).mp isLess
        have tail := ih fun other member => ranked other (List.mem_cons_of_mem last member)
        exact pairwise_prepend (fun one other => other.trans one) falls tail
      · exact List.pairwise_singleton _ _

/-- Elements whose ranks are all different can be turned round. -/
theorem Rearranges.turned {elements : List α}
    (falls : elements.Pairwise fun before behind => rank behind < rank before) :
    Rearranges rank elements.reverse elements := by
  induction elements with
  | nil => exact .refl []
  | cons element rest ih =>
      obtain ⟨below, tail⟩ := List.pairwise_cons.mp falls
      rw [List.reverse_cons]
      have apart : Rearranges rank (rest ++ [element]) ([element] ++ rest) :=
        .swap fun other member one isElement =>
          List.mem_singleton.mp isElement ▸ (below other member).ne
      exact ((ih tail).append (.refl [element])).trans apart

theorem length_frontRun_rest (less : α → α → Bool) {elements : List α} (some : elements ≠ []) :
    (frontRun less elements).2.length < elements.length := by
  match elements, some with
  | [only], _ => exact Nat.zero_lt_one
  | first :: second :: rest, _ =>
      rw [frontRun]
      split
      · have whole := congrArg List.length (descending_append less second rest)
        rw [List.length_append] at whole
        simp only [List.length_cons]
        omega
      · have whole := congrArg List.length (ascending_append less second rest)
        rw [List.length_append] at whole
        simp only [List.length_cons]
        omega

theorem length_frontRunOf_rest (less : α → α → Bool) (least : Nat) {elements : List α}
    (some : elements ≠ []) : (frontRunOf less least elements).2.length < elements.length := by
  rw [frontRunOf]
  dsimp only
  rw [List.length_drop]
  exact Nat.lt_of_le_of_lt (Nat.sub_le _ _) (length_frontRun_rest less some)

/-- What is split off is a run. -/
structure Splits (rank : α → β) (isRanked : α → Prop) (elements run rest : List α) : Prop where
  isRun : IsRun rank isRanked run
  rearranges : Rearranges rank (run ++ rest) elements

theorem frontRun_splits (compares : Compares less rank isRanked) {elements : List α}
    (ranked : ∀ element ∈ elements, isRanked element) :
    Splits rank isRanked elements (frontRun less elements).1 (frontRun less elements).2 := by
  match elements with
  | [] => exact ⟨⟨ranked, .nil⟩, .refl []⟩
  | [only] => exact ⟨⟨ranked, List.pairwise_singleton _ _⟩, .refl _⟩
  | first :: second :: rest =>
      obtain ⟨firstRanked, tailRanked⟩ := List.forall_mem_cons.mp ranked
      have secondRanked := tailRanked second List.mem_cons_self
      by_cases isLess : less second first
      · let run := first :: second :: (descending less second rest).1
        have found : frontRun less (first :: second :: rest) =
            (run.reverse, (descending less second rest).2) := by
          rw [frontRun, if_pos isLess]
        have whole : run ++ (descending less second rest).2 = first :: second :: rest :=
          congrArg (first :: second :: ·) (descending_append less second rest)
        have step : rank second < rank first :=
          (compares.less_iff secondRanked firstRanked).mp isLess
        have falls : run.Pairwise fun before behind => rank behind < rank before :=
          pairwise_prepend (fun one other => other.trans one) step
            (descending_falls compares tailRanked)
        rw [found]
        refine ⟨⟨fun element member => ?_, ?_⟩, ?_⟩
        · refine ranked element (whole ▸ List.mem_append_left _ (List.mem_reverse.mp member))
        · exact List.pairwise_reverse.mpr (falls.imp le_of_lt)
        · rw [← whole]
          exact (Rearranges.turned falls).append (.refl _)
      · let run := first :: second :: (ascending less second rest).1
        have found : frontRun less (first :: second :: rest) =
            (run, (ascending less second rest).2) := by
          rw [frontRun, if_neg isLess]
        have whole : run ++ (ascending less second rest).2 = first :: second :: rest :=
          congrArg (first :: second :: ·) (ascending_append less second rest)
        have step : rank first ≤ rank second :=
          (compares.not_less_iff secondRanked firstRanked).mp (by simpa using isLess)
        rw [found]
        refine ⟨⟨fun element member => ?_, ?_⟩, ?_⟩
        · exact ranked element (whole ▸ List.mem_append_left _ member)
        · exact pairwise_prepend (fun one other => one.trans other) step
            (ascending_ascends compares tailRanked)
        · rw [whole]
          exact .refl _

theorem foldl_insert_sorts (compares : Compares less rank isRanked) {run more : List α}
    (isRun : IsRun rank isRanked run) (ranked : ∀ element ∈ more, isRanked element) :
    Sorts rank isRanked (run ++ more) (more.foldl (insert less) run) := by
  induction more generalizing run with
  | nil => exact ⟨isRun, by rw [List.append_nil]; exact .refl run⟩
  | cons element rest ih =>
      obtain ⟨elementRanked, restRanked⟩ := List.forall_mem_cons.mp ranked
      obtain ⟨inserted, placed⟩ := insert_sorts compares isRun elementRanked
      obtain ⟨isLonger, moved⟩ := ih inserted restRanked
      refine ⟨isLonger, ?_⟩
      rw [List.append_cons]
      exact moved.trans (placed.append (.refl rest))

theorem frontRunOf_splits (compares : Compares less rank isRanked) (least : Nat) {elements : List α}
    (ranked : ∀ element ∈ elements, isRanked element) :
    Splits rank isRanked elements (frontRunOf less least elements).1
      (frontRunOf less least elements).2 := by
  obtain ⟨isRun, rearranges⟩ := frontRun_splits compares ranked
  let run := (frontRun less elements).1
  let rest := (frontRun less elements).2
  let missing := least - run.length
  have restRanked : ∀ element ∈ rest, isRanked element := fun element member =>
    ranked element ((rearranges.mem_iff element).mp (List.mem_append_right run member))
  have takenRanked : ∀ element ∈ rest.take missing, isRanked element := fun element member =>
    restRanked element (List.mem_of_mem_take member)
  obtain ⟨isLonger, moved⟩ := foldl_insert_sorts compares isRun takenRanked
  have split : run ++ rest.take missing ++ rest.drop missing = run ++ rest := by
    rw [List.append_assoc, List.take_append_drop]
  exact ⟨isLonger, (moved.append (.refl (rest.drop missing))).trans (split ▸ rearranges)⟩

end Rulebook.Sorting
