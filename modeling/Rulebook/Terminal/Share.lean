import Rulebook.Decimal.Scientific
import Rulebook.Sum

/-!
Sharing out a number of columns among several places.
-/

namespace Rulebook.Terminal.Share

/-- The quotient rounded up. -/
def roundedUp (numerator denominator : Nat) : Nat := (numerator + denominator - 1) / denominator

/-- A place that may give columns away: its share of what is to be given, the most it may give,
and its columns. -/
structure Giver where
  ratio : Nat
  limit : Nat
  columns : Nat

/-- The ratios of those that can give. -/
def Giver.weight (giver : Giver) : Nat := if giver.limit = 0 then 0 else giver.ratio

def takeFrom (remaining weights : Nat) : List Giver → List Nat
  | [] => []
  | giver :: rest =>
      if giver.weight = 0 || weights = 0 then giver.columns :: takeFrom remaining weights rest
      else
        let given := min giver.limit (Decimal.roundDiv (giver.weight * remaining) weights)
        (giver.columns - given) :: takeFrom (remaining - given) (weights - giver.weight) rest

/-- What the places keep when `total` columns are taken from them by their ratios. -/
def take (total : Nat) (givers : List Giver) : List Nat :=
  takeFrom total (sumOf (givers.map Giver.weight)) givers

def giveFrom (remaining weights : Nat) : List Nat → List Nat
  | [] => []
  | weight :: rest =>
      let given := if weights = 0 then remaining else roundedUp (weight * remaining) weights
      given :: giveFrom (remaining - given) (weights - weight) rest

/-- What the places get when `total` columns are given to them in proportion to their weights. -/
def give (total : Nat) (weights : List Nat) : List Nat := giveFrom total (sumOf weights) weights

end Rulebook.Terminal.Share
