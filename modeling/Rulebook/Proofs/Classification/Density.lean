import Rulebook.Classification
import Rulebook.Proofs.Decimal.Shares
import Rulebook.Proofs.Sorting.Order

namespace Rulebook

namespace Scoring

variable {α β : Type} [LinearOrder β]

/-- The confidences that come from weights, which are numbers, compare by a rank. -/
structure RanksBy (scoring : Scoring α) (rank : α → β) (isRanked : α → Prop) : Prop where
  compares : Sorting.Compares scoring.less rank isRanked
  ranked : ∀ weight hits words, weight.isNaN = false →
    isRanked (scoring.confidence weight hits words)

theorem ranksBy_id [LinearOrder α] (confidence : Float → Nat → Nat → α) :
    RanksBy ⟨confidence, fun first second => first < second⟩ id fun _ => True :=
  ⟨fun _ _ _ _ => rfl, fun _ _ _ _ => trivial⟩

end Scoring

open Decimal

theorem isUnsigned_fullMatches (words : Nat) :
    IsUnsigned (fullMatches Nat.toFloat words).toModel.unpack := by
  unfold fullMatches
  dsimp only
  split
  · exact isUnsigned_one
  · exact (isUnsigned_toFloat words).div isUnsigned_ten

/-- The other half of a confidence is small, or all of one half. -/
theorem unpack_factor (hits words : Nat) : ∃ mantissa exponent positive,
    (0.5 + 0.5 * matchDensity Nat.toFloat hits words).toModel.unpack =
      .finite .positive mantissa exponent positive := by
  unfold matchDensity
  dsimp only
  split
  · rename_i below
    have unsigned := (isUnsigned_toFloat hits).div (isUnsigned_fullMatches words)
    exact unpack_half_add (isSmall_of_lt_one unsigned below).half
  · exact ⟨2 ^ 52, -52, Nat.two_pow_pos 52, by with_unfolding_all rfl⟩

/-- The confidences in use stand in the order of doubles. -/
theorem Scoring.density_ranksBy : density.RanksBy rank fun confidence => confidence.isNaN = false := by
  constructor
  · intro first second isNumber alsoNumber
    exact decide_eq_decide.mpr (lt_iff_rank_lt isNumber alsoNumber)
  · intro weight hits words isNumber
    obtain ⟨mantissa, exponent, positive, finite⟩ := unpack_factor hits words
    exact isNaN_mul isNumber finite

end Rulebook
