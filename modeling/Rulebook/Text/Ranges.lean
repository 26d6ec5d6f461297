/-!
Sets of characters given by sorted ranges of code points.
-/

namespace Rulebook.Text

/-- Looks for a range with the code among those at positions from `low` to below `high`. -/
def Ranges.search (table : Array (Nat × Nat)) (code low high : Nat) : Bool :=
  if _nonempty : low < high then
    let middle := (low + high) / 2
    match table[middle]? with
    | none => false
    | some (first, last) =>
        if code < first then search table code low middle
        else if last < code then search table code (middle + 1) high
        else true
  else false
  termination_by high - low

/-- Some range of the table, whose ranges ascend, has the code. -/
def Ranges.contains (table : Array (Nat × Nat)) (code : Nat) : Bool :=
  Ranges.search table code 0 table.size

end Rulebook.Text
