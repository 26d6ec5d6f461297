/-!
Merging of two runs that follow each other.

A merge works from one end, so that the shorter run is the one that is kept apart. It compares the
next elements of both runs; when one run has won often in a row, it looks for the place up to which
that run wins, by steps of growing size. How often is a limit that merges adapt as they go.

The result is the one that any stable merge has where the comparison orders the elements. It is
laid down also for comparisons that order nothing, such as those of a number with no value.
-/

namespace Rulebook.Sorting

variable {α : Type}

/-- Steps that grow while elements pass: the last place that passed, and a place that did not, or
the end. -/
def stride (passes : α → Bool) (elements : List α) : (fuel last next : Nat) → Nat × Nat
  | 0, last, next => (last, next)
  | fuel + 1, last, next =>
      match elements[next]? with
      | some element =>
          if passes element then stride passes elements fuel next (2 * next + 1) else (last, next)
      | none => (last, elements.length)

/-- The first place from `low` to `high` whose element does not pass, found by halving. The middle
of an even number of places is the later one, or the earlier one if `early`. -/
def halve (passes : α → Bool) (early : Bool) (elements : List α) (low high : Nat) : Nat :=
  if _open : low < high then
    let middle := low + (high - low - if early then 1 else 0) / 2
    match elements[middle]? with
    | some element =>
        if passes element then halve passes early elements (middle + 1) high
        else halve passes early elements low middle
    | none => low
  else low
  termination_by high - low
  decreasing_by all_goals split <;> omega

/-- How many elements at the front pass, if those that pass come first. -/
def countFront (passes : α → Bool) (early : Bool) (elements : List α) : Nat :=
  match elements with
  | [] => 0
  | first :: _ =>
      if passes first then
        let (last, next) := stride passes elements elements.length 0 1
        halve passes early elements (last + 1) next
      else 0

/-- Two runs in the course of a merge, each with the next element first, and the elements merged so
far, the latest first. -/
structure Merge (α : Type) where
  short : List α
  long : List α
  merged : List α := []

namespace Merge

def takeShort (merge : Merge α) (count : Nat) : Merge α where
  short := merge.short.drop count
  long := merge.long
  merged := (merge.short.take count).reverse ++ merge.merged

def takeLong (merge : Merge α) (count : Nat) : Merge α where
  short := merge.short
  long := merge.long.drop count
  merged := (merge.long.take count).reverse ++ merge.merged

/-- The last element of the short run comes behind all others. -/
def isOver (merge : Merge α) : Bool := merge.long.isEmpty || merge.short.length ≤ 1

def elements (merge : Merge α) : List α := merge.merged.reverse ++ merge.long ++ merge.short

variable (beats : α → α → Bool)

/-- Takes the next elements one by one until the merge is over or a run has won `limit` times in a
row. An element of the long run wins if it beats that of the short one. -/
def contest (limit : Nat) : (fuel shortWins longWins : Nat) → Merge α → Merge α
  | 0, _, _, merge => merge
  | fuel + 1, shortWins, longWins, merge =>
      match merge.short, merge.long with
      | short :: _, long :: _ =>
          let longIsNext := beats long short
          let shortWins := if longIsNext then 0 else shortWins + 1
          let longWins := if longIsNext then longWins + 1 else 0
          let merge := if longIsNext then merge.takeLong 1 else merge.takeShort 1
          if merge.isOver || limit ≤ shortWins || limit ≤ longWins then merge
          else contest limit fuel shortWins longWins merge
      | _, _ => merge

/-- Takes what of the short run comes before the next element of the long one, and that element.
The number of elements of the short run is told. -/
def leapShort (early : Bool) (merge : Merge α) : Merge α × Nat :=
  match merge.long with
  | [] => (merge, 0)
  | key :: _ =>
      let count := countFront (fun element => !beats key element) early merge.short
      let merge := merge.takeShort count
      (if merge.isOver then merge else merge.takeLong 1, count)

/-- Takes what of the long run comes before the next element of the short one, and that element.
The number of elements of the long run is told. -/
def leapLong (early : Bool) (merge : Merge α) : Merge α × Nat :=
  match merge.short with
  | [] => (merge, 0)
  | key :: _ =>
      let count := countFront (fun element => beats element key) early merge.long
      let merge := merge.takeLong count
      (if merge.isOver then merge else merge.takeShort 1, count)

/-- So many elements at once make it worthwhile to go on leaping. -/
def worthwhile : Nat := 7

/-- Leaps in both runs while that is worthwhile, and lowers the limit each time. -/
def leap (backward : Bool) : (fuel limit : Nat) → Merge α → Merge α × Nat
  | 0, limit, merge => (merge, limit)
  | fuel + 1, limit, merge =>
      let (first, second) :=
        if backward then (leapLong beats backward, leapShort beats backward)
        else (leapShort beats backward, leapLong beats backward)
      let (merge, firstCount) := first merge
      if merge.isOver then (merge, limit)
      else
        let (merge, secondCount) := second merge
        if merge.isOver then (merge, limit)
        else if worthwhile ≤ firstCount || worthwhile ≤ secondCount then
          leap backward fuel (max (limit - 1) 1) merge
        else (merge, limit)

/-- Merges to the end. The limit is raised whenever leaping was given up. -/
def finish (backward : Bool) : (fuel limit : Nat) → Merge α → Merge α × Nat
  | 0, limit, merge => (merge, limit)
  | fuel + 1, limit, merge =>
      if merge.isOver then (merge, limit)
      else
        let length := merge.short.length + merge.long.length
        let merge := merge.contest beats limit length 0 0
        if merge.isOver then (merge, limit)
        else
          let (merge, limit) := merge.leap beats backward length limit
          if merge.isOver then (merge, limit) else finish backward fuel (limit + 1) merge

end Merge

/-- Merges two runs from the end at which the shorter one lies. The first element taken is of the
longer one. -/
def mergeFrom (less : α → α → Bool) (limit : Nat) (first second : List α) : List α × Nat :=
  let fuel := first.length + second.length
  if first.length ≤ second.length then
    let start := Merge.takeLong ⟨first, second, []⟩ 1
    let (merge, limit) := start.finish less false fuel limit
    (merge.elements, limit)
  else
    let start := Merge.takeLong ⟨second.reverse, first.reverse, []⟩ 1
    let (merge, limit) := start.finish (fun a b => less b a) true fuel limit
    (merge.elements.reverse, limit)

/-- Merges two runs. Elements that are already in place are set aside: those at the front that are
not greater than the second run's first one, and those at the end that are not less than the first
run's last one. -/
def mergeRuns (less : α → α → Bool) (limit : Nat) (first second : List α) : List α × Nat :=
  match second.head?, first.getLast? with
  | some low, some high =>
      let front := countFront (fun element => !less low element) false first
      let back := countFront (fun element => !less element high) true second.reverse
      let rest := first.drop front
      let size := second.length - back
      if rest.isEmpty || size = 0 then (first ++ second, limit)
      else
        let (merged, limit) := mergeFrom less limit rest (second.take size)
        (first.take front ++ merged ++ second.drop size, limit)
  | _, _ => (first ++ second, limit)

end Rulebook.Sorting
