import Rulebook.Sorting.Merge
import Rulebook.Sorting.Run

/-!
A stable sort by merging runs. It is exact also for comparisons that order nothing, such as those
of a number with no value: then the order depends on which elements are compared.

The boundary between two runs has a power, which tells how early a bisection of the whole list
comes between their middles. Runs wait while the powers grow; a boundary of less power brings those
of greater power to be merged before.
-/

namespace Rulebook.Sorting

variable {α : Type} (less : α → α → Bool)

/-- A run that waits to be merged: where it starts, and the power of the boundary behind it. -/
structure Pending (α : Type) where
  start : Nat
  elements : List α
  power : Nat := 0

/-- The first binary digit in which the shares of two positions in a whole differ, counted from
one. -/
def firstDifference (whole : Nat) : (fuel a b : Nat) → Nat
  | 0, _, _ => 1
  | fuel + 1, a, b =>
      if whole ≤ a then firstDifference whole fuel (2 * (a - whole)) (2 * (b - whole)) + 1
      else if whole ≤ b then 1
      else firstDifference whole fuel (2 * a) (2 * b) + 1

/-- The power of the boundary behind a run, when `next` elements follow it. -/
def Pending.powerBefore (run : Pending α) (next whole : Nat) : Nat :=
  let middle := 2 * run.start + run.elements.length
  firstDifference whole whole middle (middle + run.elements.length + next)

/-- Merges a waiting run with the one behind it. -/
def Pending.merge (limit : Nat) (first second : Pending α) : Pending α × Nat :=
  let (elements, limit) := mergeRuns less limit first.elements second.elements
  ({ second with start := first.start, elements }, limit)

/-- Merges waiting runs, the last first, whose boundary has more than the given power. -/
def settle (power : Nat) : (limit : Nat) → (last : Pending α) → List (Pending α) →
    List (Pending α) × Nat
  | limit, last, [] => ([{ last with power }], limit)
  | limit, last, before :: rest =>
      if power < before.power then
        let (merged, limit) := Pending.merge less limit before last
        settle power limit merged rest
      else ({ last with power } :: before :: rest, limit)

/-- Merges all waiting runs, the last first. Of three runs, the middle one goes with the smaller of
the others. -/
def settleAll : (fuel limit : Nat) → List (Pending α) → List α
  | 0, _, runs => (runs.reverse.map (·.elements)).flatten
  | fuel + 1, limit, third :: second :: first :: rest =>
      if first.elements.length < third.elements.length then
        let (merged, limit) := Pending.merge less limit first second
        settleAll fuel limit (third :: merged :: rest)
      else
        let (merged, limit) := Pending.merge less limit second third
        settleAll fuel limit (merged :: first :: rest)
  | _, limit, [second, first] => (Pending.merge less limit first second).1.elements
  | _, _, runs => (runs.map (·.elements)).flatten

/-- The least length of a run, from 32 to 64: the length of the whole is halved, and rounded up in
the end, so that runs of that length come to a power of two or a little less. -/
def leastRun (length : Nat) (isCut : Bool := false) : Nat :=
  if 64 ≤ length then leastRun (length / 2) (isCut || length % 2 == 1)
  else if isCut then length + 1 else length

/-- Finds the runs of a list from `start` on, and merges those that need not wait. -/
def gather (whole least : Nat) : (fuel start limit : Nat) → List (Pending α) → List α →
    List (Pending α) × Nat
  | 0, _, limit, runs, _ => (runs, limit)
  | _, _, limit, runs, [] => (runs, limit)
  | fuel + 1, start, limit, runs, elements =>
      let (run, rest) := frontRunOf less least elements
      let (runs, limit) := match runs with
        | [] => ([], limit)
        | last :: before => settle less (last.powerBefore run.length whole) limit last before
      gather whole least fuel (start + run.length) limit (⟨start, run, 0⟩ :: runs) rest

/-- Sorts from the least to the greatest; equal elements keep their order. -/
def ascend (elements : List α) : List α :=
  let length := elements.length
  let (runs, limit) := gather less length (leastRun length) length 0 Merge.worthwhile [] elements
  settleAll less length limit runs

/-- Sorts from the greatest to the least; equal elements keep their order. -/
def descend (elements : List α) : List α := (ascend less elements.reverse).reverse

end Rulebook.Sorting
