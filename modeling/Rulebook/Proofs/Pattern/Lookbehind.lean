import Rulebook.Pattern.Program
import Rulebook.Pattern.Reader
import Rulebook.Proofs.Running

namespace Rulebook.Pattern

mutual

/-- There is a look-behind in the item. -/
def Item.looksBehind : Item → Bool
  | .char _ | .notChar _ | .set .. | .any | .anchor _ | .backReference _ => false
  | .repetition _ _ _ body | .group _ _ _ body | .atomic body => sequenceLooksBehind body
  | .look ahead _ body => !ahead || sequenceLooksBehind body
  | .conditional _ present absent =>
      sequenceLooksBehind present || match absent with
        | some absent => sequenceLooksBehind absent
        | none => false
  | .branch alternatives => branchLooksBehind alternatives

def sequenceLooksBehind : List Item → Bool
  | [] => false
  | item :: rest => item.looksBehind || sequenceLooksBehind rest

def branchLooksBehind : List (List Item) → Bool
  | [] => false
  | alternative :: rest => sequenceLooksBehind alternative || branchLooksBehind rest

end

theorem sequenceLooksBehind_eq_any (items : List Item) :
    sequenceLooksBehind items = items.any Item.looksBehind := by
  induction items with
  | nil => rfl
  | cons item rest ih => rw [sequenceLooksBehind, ih, List.any_cons]

theorem branchLooksBehind_eq_any (alternatives : List (List Item)) :
    branchLooksBehind alternatives = alternatives.any sequenceLooksBehind := by
  induction alternatives with
  | nil => rfl
  | cons alternative rest ih => rw [branchLooksBehind, ih, List.any_cons]

@[simp] theorem sequenceLooksBehind_append (items more : List Item) :
    sequenceLooksBehind (items ++ more) =
      (sequenceLooksBehind items || sequenceLooksBehind more) := by
  simp only [sequenceLooksBehind_eq_any, List.any_append]

@[simp] theorem sequenceLooksBehind_ungrouped (item : Item) :
    sequenceLooksBehind item.ungrouped = item.looksBehind := by
  unfold Item.ungrouped
  split
  · rename_i added removed body
    split <;> simp [sequenceLooksBehind, Item.looksBehind]
  · simp [sequenceLooksBehind]

theorem sequenceLooksBehind_restored (items : List Item) :
    sequenceLooksBehind (items.reverse.map Item.ungrouped).flatten = sequenceLooksBehind items := by
  induction items with
  | nil => rfl
  | cons item rest ih =>
      rw [List.reverse_cons, List.map_append, List.flatten_append, sequenceLooksBehind_append, ih]
      simp [sequenceLooksBehind, Bool.or_comm]

theorem branchLooksBehind_tails {alternatives : List (List Item)}
    (looks : branchLooksBehind (alternatives.map List.tail)) : branchLooksBehind alternatives := by
  rw [branchLooksBehind_eq_any, List.any_eq_true] at looks ⊢
  obtain ⟨rest, member, looks⟩ := looks
  obtain ⟨alternative, inAlternatives, rfl⟩ := List.mem_map.mp member
  refine ⟨alternative, inAlternatives, ?_⟩
  cases alternative with
  | nil => exact looks
  | cons item rest => simp only [sequenceLooksBehind, List.tail_cons] at looks ⊢; simp [looks]

theorem commonFront_looksBehind {first : List Item} {others : List (List Item)}
    (looks : sequenceLooksBehind (commonFront first others).1 ||
      branchLooksBehind (commonFront first others).2) :
    sequenceLooksBehind first || branchLooksBehind others := by
  induction first generalizing others with
  | nil => simpa [commonFront, sequenceLooksBehind, branchLooksBehind] using looks
  | cons item rest ih =>
      rw [commonFront] at looks
      split at looks
      · have behind := @ih (others.map List.tail)
        have tails := @branchLooksBehind_tails others
        simp only [sequenceLooksBehind, Bool.or_eq_true] at looks behind ⊢
        grind
      · simpa [sequenceLooksBehind, branchLooksBehind] using looks

theorem alternation_looksBehind (alternatives : List (List Item))
    (looks : sequenceLooksBehind (alternation alternatives)) : branchLooksBehind alternatives := by
  match alternatives with
  | [] => exact looks
  | [only] => simpa [branchLooksBehind, alternation] using looks
  | first :: second :: others =>
      rw [branchLooksBehind]
      apply commonFront_looksBehind
      simp only [alternation] at looks
      split at looks
      · simp only [sequenceLooksBehind_append, sequenceLooksBehind, Item.looksBehind,
          Bool.or_false] at looks
        simp [looks]
      · simpa [sequenceLooksBehind, Item.looksBehind] using looks

@[simp] theorem sequenceBackReach_append (nodes more : List Node) :
    sequenceBackReach (nodes ++ more) = max (sequenceBackReach nodes) (sequenceBackReach more) := by
  induction nodes with
  | nil => simp [sequenceBackReach]
  | cons node rest ih =>
      rw [List.cons_append, sequenceBackReach, sequenceBackReach, ih, Nat.max_assoc]

variable [edition : Edition] (groups : List (Option (Nat × Nat)))

mutual

/-- Only what looks behind goes back. -/
theorem Item.prepare_backReach (item : Item) (flags : Flags) (nodes : List Node)
    (prepared : item.prepare groups flags = .ok nodes) (no : item.looksBehind = false) :
    sequenceBackReach nodes = 0 := by
  cases item with
  | char | notChar | set | any | anchor | backReference =>
      cases prepared
      rfl
  | repetition greed least most body =>
      rw [Item.prepare] at prepared
      split at prepared
      · cases prepared
      · obtain ⟨inner, one, prepared⟩ := except_bind_eq_ok.mp prepared
        have within := sequencePrepare_backReach body flags inner one no
        split at prepared
        · cases prepared
          rfl
        · cases prepared
          simp [sequenceBackReach, Node.backReach, within]
  | group index added removed body =>
      obtain ⟨inner, one, prepared⟩ := except_bind_eq_ok.mp prepared
      have within := sequencePrepare_backReach body _ inner one no
      cases index with
      | none =>
          cases prepared
          exact within
      | some index =>
          cases prepared
          simp [sequenceBackReach, Node.backReach, within]
  | atomic body =>
      obtain ⟨inner, one, prepared⟩ := except_bind_eq_ok.mp prepared
      cases prepared
      simp [sequenceBackReach, Node.backReach, sequencePrepare_backReach body flags inner one no]
  | look ahead negated body =>
      obtain ⟨isAhead, noBody⟩ := Bool.or_eq_false_iff.mp no
      obtain rfl : ahead = true := by simpa using isAhead
      obtain ⟨back, found, prepared⟩ := except_bind_eq_ok.mp prepared
      obtain ⟨inner, one, prepared⟩ := except_bind_eq_ok.mp prepared
      cases found
      cases prepared
      have within := sequencePrepare_backReach body flags inner one noBody
      simp [sequenceBackReach, Node.backReach, within]
  | conditional group present absent =>
      cases absent with
      | none =>
          obtain ⟨inner, one, prepared⟩ := except_bind_eq_ok.mp prepared
          have noPresent : sequenceLooksBehind present = false := by
            simpa only [Item.looksBehind, Bool.or_false] using no
          have within := sequencePrepare_backReach present flags inner one noPresent
          cases prepared
          simp [sequenceBackReach, Node.backReach, within]
      | some absent =>
          obtain ⟨inner, one, prepared⟩ := except_bind_eq_ok.mp prepared
          obtain ⟨other, two, prepared⟩ := except_bind_eq_ok.mp prepared
          simp only [Item.looksBehind, Bool.or_eq_false_iff] at no
          have within := sequencePrepare_backReach present flags inner one no.1
          have without := sequencePrepare_backReach absent flags other two no.2
          cases prepared
          simp [sequenceBackReach, Node.backReach, within, without]
  | branch alternatives =>
      obtain ⟨inner, one, prepared⟩ := except_bind_eq_ok.mp prepared
      cases prepared
      have within := branchPrepare_backReach alternatives flags inner one no
      simp [sequenceBackReach, Node.backReach, within]

theorem sequencePrepare_backReach (items : List Item) (flags : Flags) (nodes : List Node)
    (prepared : sequencePrepare groups flags items = .ok nodes)
    (no : sequenceLooksBehind items = false) : sequenceBackReach nodes = 0 := by
  cases items with
  | nil =>
      cases prepared
      rfl
  | cons item rest =>
      obtain ⟨first, one, prepared⟩ := except_bind_eq_ok.mp prepared
      obtain ⟨others, more, made⟩ := except_bind_eq_ok.mp prepared
      cases made
      obtain ⟨noFirst, noRest⟩ := Bool.or_eq_false_iff.mp no
      rw [sequenceBackReach_append, Item.prepare_backReach item flags first one noFirst,
        sequencePrepare_backReach rest flags others more noRest, Nat.max_self]

theorem branchPrepare_backReach (alternatives : List (List Item)) (flags : Flags)
    (nodes : List (List Node)) (prepared : branchPrepare groups flags alternatives = .ok nodes)
    (no : branchLooksBehind alternatives = false) : branchBackReach nodes = 0 := by
  cases alternatives with
  | nil =>
      cases prepared
      rfl
  | cons alternative rest =>
      obtain ⟨first, one, prepared⟩ := except_bind_eq_ok.mp prepared
      obtain ⟨others, more, made⟩ := except_bind_eq_ok.mp prepared
      cases made
      obtain ⟨noFirst, noRest⟩ := Bool.or_eq_false_iff.mp no
      have front := sequencePrepare_backReach alternative flags first one noFirst
      have behind := branchPrepare_backReach rest flags others more noRest
      simp [branchBackReach, sequenceBackReach, Node.backReach, front, behind]

end

end Rulebook.Pattern
