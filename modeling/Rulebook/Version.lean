import Rulebook.Decimal.Reading

/-!
Versions of published rules: three integers, compared from the first to the last.
-/

namespace Rulebook

structure Version where
  major : Int
  minor : Int
  patch : Int
  deriving DecidableEq, Repr

namespace Version

/-- Reads `major.minor.patch`; white space around it and letters `v` before it do not count. -/
def parse? (text : String) : Option Version :=
  let body := Text.trimStart (· == 'v') (Text.trim Text.isBlank text.toList)
  match (Text.splitAt '.' body).map fun part => Decimal.readInteger (String.ofList part) with
  | [.ok major, .ok minor, .ok patch] => some ⟨major, minor, patch⟩
  | _ => none

/-- The version `left` comes after `right`. -/
def isAfter (left right : Version) : Bool :=
  if left.major ≠ right.major then right.major < left.major
  else if left.minor ≠ right.minor then right.minor < left.minor
  else right.patch < left.patch

/-- Whether the candidate is newer; texts that are no versions are neither newer nor older. -/
def isNewer (candidate current : String) : Bool :=
  match parse? candidate, parse? current with
  | some left, some right => left.isAfter right
  | _, _ => false

end Version

end Rulebook
