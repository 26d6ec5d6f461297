/-!
Runs: stretches of a list that are in order. A run is found at the front of a list, and it is
lengthened by inserting the elements that follow.
-/

namespace Rulebook.Sorting

variable {α : Type} (less : α → α → Bool)

/-- The place behind all elements that are not greater, found by halving the places from `low` to
`high`. -/
def place (pivot : α) (sorted : List α) (low high : Nat) : Nat :=
  if _open : low < high then
    let middle := (low + high) / 2
    match sorted[middle]? with
    | some element =>
        if less pivot element then place pivot sorted low middle
        else place pivot sorted (middle + 1) high
    | none => low
  else low
  termination_by high - low

def insert (sorted : List α) (pivot : α) : List α :=
  let index := place less pivot sorted 0 sorted.length
  sorted.take index ++ pivot :: sorted.drop index

/-- Splits off the longest run at the front behind `last` in which no element is less than the one
before it. -/
def ascending (last : α) : List α → List α × List α
  | [] => ([], [])
  | element :: rest =>
      if less element last then ([], element :: rest)
      else
        let (run, rest) := ascending element rest
        (element :: run, rest)

/-- Splits off the longest run at the front behind `last` in which each element is less than the
one before it. -/
def descending (last : α) : List α → List α × List α
  | [] => ([], [])
  | element :: rest =>
      if less element last then
        let (run, rest) := descending element rest
        (element :: run, rest)
      else ([], element :: rest)

/-- The run at the front of a list, from the least to the greatest, and the rest. -/
def frontRun : List α → List α × List α
  | first :: second :: rest =>
      if less second first then
        let (run, rest) := descending less second rest
        ((first :: second :: run).reverse, rest)
      else
        let (run, rest) := ascending less second rest
        (first :: second :: run, rest)
  | few => (few, [])

/-- The run at the front of a list, lengthened to `least` elements if there are so many. -/
def frontRunOf (least : Nat) (elements : List α) : List α × List α :=
  let (run, rest) := frontRun less elements
  let missing := least - run.length
  ((rest.take missing).foldl (insert less) run, rest.drop missing)

end Rulebook.Sorting
