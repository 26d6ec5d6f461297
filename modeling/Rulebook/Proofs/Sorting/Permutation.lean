import Rulebook.Proofs.Sorting.Stable

namespace Rulebook.Sorting

variable {α : Type} (less : α → α → Bool)

theorem insert_perm (sorted : List α) (pivot : α) :
    (insert less sorted pivot).Perm (sorted ++ [pivot]) := by
  let index := place less pivot sorted 0 sorted.length
  have moved : (insert less sorted pivot).Perm (pivot :: (sorted.take index ++ sorted.drop index)) :=
    List.perm_middle
  rw [List.take_append_drop] at moved
  exact moved.trans (List.perm_append_singleton pivot sorted).symm

theorem foldl_insert_perm (run more : List α) :
    (more.foldl (insert less) run).Perm (run ++ more) := by
  induction more generalizing run with
  | nil => simp
  | cons element rest ih =>
      have inserted := (insert_perm less run element).append_right rest
      rw [List.append_assoc] at inserted
      exact (ih (insert less run element)).trans inserted

theorem frontRun_perm (elements : List α) :
    ((frontRun less elements).1 ++ (frontRun less elements).2).Perm elements := by
  match elements with
  | [] => exact .refl []
  | [only] => exact .refl [only]
  | first :: second :: rest =>
      rw [frontRun]
      split
      · have whole := congrArg (first :: second :: ·) (descending_append less second rest)
        exact ((List.reverse_perm _).append_right _).trans (.of_eq whole)
      · exact .of_eq (congrArg (first :: second :: ·) (ascending_append less second rest))

theorem frontRunOf_perm (least : Nat) (elements : List α) :
    ((frontRunOf less least elements).1 ++ (frontRunOf less least elements).2).Perm elements := by
  let run := (frontRun less elements).1
  let rest := (frontRun less elements).2
  let missing := least - run.length
  have lengthened := (foldl_insert_perm less run (rest.take missing)).append_right (rest.drop missing)
  rw [List.append_assoc, List.take_append_drop] at lengthened
  exact lengthened.trans (frontRun_perm less elements)

theorem Merge.elements_takeShort (merge : Merge α) (count : Nat) :
    (merge.takeShort count).elements.Perm merge.elements := by
  have moved : (merge.short.take count ++ merge.long ++ merge.short.drop count).Perm
      (merge.long ++ merge.short) := by
    have swapped : (merge.short.take count ++ merge.long).Perm (merge.long ++ merge.short.take count) :=
      List.perm_append_comm
    have kept := swapped.append_right (merge.short.drop count)
    rwa [List.append_assoc merge.long, List.take_append_drop] at kept
  have around := moved.append_left merge.merged.reverse
  simpa [Merge.elements, Merge.takeShort] using around

theorem Merge.elements_takeLong (merge : Merge α) (count : Nat) :
    (merge.takeLong count).elements = merge.elements := by
  simp only [Merge.elements, Merge.takeLong, List.reverse_append, List.reverse_reverse,
    List.append_assoc]
  rw [← List.append_assoc (merge.long.take count), List.take_append_drop]

theorem Merge.keptByTaking_elements (whole : List α) :
    KeptByTaking fun merge : Merge α => merge.elements.Perm whole :=
  ⟨fun merge count same => (merge.elements_takeShort count).trans same,
    fun merge count same => (merge.elements_takeLong count).symm ▸ same⟩

theorem Merge.elements_finish (beats : α → α → Bool) (backward : Bool) (fuel limit : Nat)
    (merge : Merge α) : (merge.finish beats backward fuel limit).1.elements.Perm merge.elements :=
  (keptByTaking_elements merge.elements).finish backward fuel limit (.refl _)

theorem mergeFrom_perm (limit : Nat) (first second : List α) :
    (mergeFrom less limit first second).1.Perm (first ++ second) := by
  unfold mergeFrom
  dsimp only
  split
  · have finished := Merge.elements_finish less false (first.length + second.length) limit
      (Merge.takeLong ⟨first, second, []⟩ 1)
    rw [Merge.elements_takeLong] at finished
    exact finished.trans List.perm_append_comm
  · have finished := Merge.elements_finish (fun a b => less b a) true
      (first.length + second.length) limit (Merge.takeLong ⟨second.reverse, first.reverse, []⟩ 1)
    rw [Merge.elements_takeLong] at finished
    have turned : (Merge.elements ⟨second.reverse, first.reverse, []⟩).Perm (first ++ second) :=
      (List.reverse_perm first).append (List.reverse_perm second)
    exact (List.reverse_perm _).trans (finished.trans turned)

theorem mergeRuns_perm (limit : Nat) (first second : List α) :
    (mergeRuns less limit first second).1.Perm (first ++ second) := by
  unfold mergeRuns
  split
  · rename_i low high _ _
    dsimp only
    generalize countFront _ false first = front
    generalize second.length - countFront _ true second.reverse = size
    split
    · exact .refl _
    · have merged := mergeFrom_perm less limit (first.drop front) (second.take size)
      have around := (merged.append_left (first.take front)).append_right (second.drop size)
      rwa [← List.append_assoc, List.take_append_drop, List.append_assoc first,
        List.take_append_drop] at around
  · exact .refl _

theorem piled_merge (limit : Nat) (above below : List (Pending α)) (first second : Pending α) :
    (piled (above ++ (Pending.merge less limit first second).1 :: below)).Perm
      (piled (above ++ second :: first :: below)) := by
  simp only [piled_append, piled_cons, List.append_assoc]
  refine .append_left (piled below) ?_
  rw [← List.append_assoc]
  exact (mergeRuns_perm less limit first.elements second.elements).append_right (piled above)

theorem piled_settle (power limit : Nat) (last : Pending α) (runs : List (Pending α)) :
    (piled (settle less power limit last runs).1).Perm (piled (last :: runs)) := by
  induction runs generalizing last limit with
  | nil => exact .of_eq (by simp [settle, piled])
  | cons before rest ih =>
      rw [settle]
      split
      · exact (ih _ _).trans (piled_merge less limit [] rest before last)
      · exact .of_eq (by simp [piled])

theorem settleAll_perm (fuel limit : Nat) (runs : List (Pending α)) :
    (settleAll less fuel limit runs).Perm (piled runs) := by
  induction fuel generalizing limit runs with
  | zero => exact .refl _
  | succ fuel ih =>
      match runs with
      | [] => exact .refl _
      | [last] => exact .of_eq (by simp [settleAll, piled])
      | [second, first] =>
          have merged := piled_merge less limit [] [] first second
          exact (List.Perm.of_eq (by simp [settleAll, piled])).trans merged
      | third :: second :: first :: rest =>
          rw [settleAll]
          split
          · exact (ih _ _).trans (piled_merge less limit [third] rest first second)
          · exact (ih _ _).trans (piled_merge less limit [] (first :: rest) second third)

theorem gather_perm (whole least : Nat) {fuel : Nat} (start limit : Nat) (runs : List (Pending α))
    {elements : List α} (enough : elements.length ≤ fuel) :
    (piled (gather less whole least fuel start limit runs elements).1).Perm
      (piled runs ++ elements) := by
  induction fuel generalizing start limit runs elements with
  | zero =>
      obtain rfl := List.length_eq_zero_iff.mp (Nat.le_zero.mp enough)
      exact .of_eq (List.append_nil _).symm
  | succ fuel ih =>
      cases elements with
      | nil => exact .of_eq (List.append_nil _).symm
      | cons element others =>
          let found := frontRunOf less least (element :: others)
          have fewer : found.2.length < (element :: others).length :=
            length_frontRunOf_rest less least (List.cons_ne_nil _ _)
          -- Whatever runs remain of those that wait, the one that was found goes on top.
          have onward (settled : List (Pending α)) (limit : Nat)
              (same : (piled settled).Perm (piled runs)) :
              (piled (gather less whole least fuel (start + found.1.length) limit
                (⟨start, found.1, 0⟩ :: settled) found.2).1).Perm
                (piled runs ++ element :: others) := by
            have left : found.2.length ≤ fuel := by omega
            have gathered := ih (start + found.1.length) limit (⟨start, found.1, 0⟩ :: settled) left
            rw [piled_cons, List.append_assoc] at gathered
            exact gathered.trans (same.append (frontRunOf_perm less least (element :: others)))
          cases runs with
          | nil => exact onward [] limit (.refl _)
          | cons last before => exact onward _ _ (piled_settle less _ limit last before)

theorem ascend_perm (elements : List α) : (ascend less elements).Perm elements :=
  (settleAll_perm less _ _ _).trans
    (gather_perm less elements.length (leastRun elements.length) 0 Merge.worthwhile []
      (Nat.le_refl _))

theorem descend_perm (elements : List α) : (descend less elements).Perm elements :=
  (List.reverse_perm _).trans ((ascend_perm less elements.reverse).trans (List.reverse_perm _))

end Rulebook.Sorting
