import Rulebook.Proofs.Decimal.Exact

namespace Rulebook.Decimal

open Float.Model Float.Model.UnpackedFloat

/-- Where an unpacked double stands. What is no number has no place of its own. -/
def rankOf : UnpackedFloat → WithBot (WithTop ℚ)
  | .infinity .negative => ⊥
  | .infinity .positive => some ⊤
  | unpacked => some (some (worthOf unpacked))

/-- Where a double stands. -/
def rank (number : Float) : WithBot (WithTop ℚ) := rankOf number.toModel.unpack

theorem rank_finite {number : Float} (finite : number.isFinite = true) :
    rank number = ((worth number : WithTop ℚ) : WithBot (WithTop ℚ)) := by
  rw [rank, worth]
  rcases finite_cases finite with ⟨sign, found⟩ | ⟨sign, mantissa, exponent, some, found, -⟩ <;>
    rw [found] <;> rfl

/-- A number is finite or one of the infinities. -/
theorem number_cases {number : Float} (isNumber : number.isNaN = false) :
    number.isFinite = true ∨ ∃ sign, number.toModel.unpack = .infinity sign := by
  change number.toModel.unpack.isNaN = false at isNumber
  change number.toModel.unpack.isFinite = true ∨ _
  cases unpacked : number.toModel.unpack with
  | notANumber =>
      rw [unpacked] at isNumber
      cases isNumber
  | infinity sign => exact .inr ⟨sign, rfl⟩
  | zero | finite => exact .inl rfl

theorem compare_coe (first second : ℚ) :
    compare ((first : WithTop ℚ) : WithBot (WithTop ℚ)) ((second : WithTop ℚ)) =
      compare first second := by
  rcases lt_trichotomy first second with smaller | rfl | larger
  · rw [compare_lt_iff_lt.mpr smaller, compare_lt_iff_lt]
    exact WithBot.coe_lt_coe.mpr (WithTop.coe_lt_coe.mpr smaller)
  · rw [compare_eq_iff_eq.mpr rfl, compare_eq_iff_eq.mpr rfl]
  · rw [compare_gt_iff_gt.mpr larger, compare_gt_iff_gt]
    exact WithBot.coe_lt_coe.mpr (WithTop.coe_lt_coe.mpr larger)

theorem bot_lt_rankOf {unpacked : UnpackedFloat} (finite : unpacked.isFinite = true) :
    rankOf (.infinity .negative) < rankOf unpacked := by
  cases unpacked with
  | notANumber | infinity => cases finite
  | zero | finite => exact WithBot.bot_lt_coe _

theorem rankOf_lt_top {unpacked : UnpackedFloat} (finite : unpacked.isFinite = true) :
    rankOf unpacked < rankOf (.infinity .positive) := by
  cases unpacked with
  | notANumber | infinity => cases finite
  | zero | finite => exact WithBot.coe_lt_coe.mpr (WithTop.coe_lt_top _)

theorem compare_infinity (sign : Sign) {unpacked : UnpackedFloat}
    (finite : unpacked.isFinite = true) :
    (UnpackedFloat.infinity sign).compare unpacked =
      some (compare (rankOf (.infinity sign)) (rankOf unpacked)) := by
  cases sign with
  | negative =>
      rw [compare_lt_iff_lt.mpr (bot_lt_rankOf finite)]
      cases unpacked <;> first | rfl | cases finite
  | positive =>
      rw [compare_gt_iff_gt.mpr (rankOf_lt_top finite)]
      cases unpacked <;> first | rfl | cases finite

theorem compare_infinities (sign other : Sign) :
    (UnpackedFloat.infinity sign).compare (.infinity other) =
      some (compare (rankOf (.infinity sign)) (rankOf (.infinity other))) := by
  have apart : rankOf (.infinity .negative) < rankOf (.infinity .positive) := WithBot.bot_lt_coe _
  cases sign <;> cases other
  · rw [compare_eq_iff_eq.mpr rfl]; rfl
  · rw [compare_lt_iff_lt.mpr apart]; rfl
  · rw [compare_gt_iff_gt.mpr apart]; rfl
  · rw [compare_eq_iff_eq.mpr rfl]; rfl

/-- Doubles that are numbers are compared by where they stand. -/
theorem compare_rank {first second : Float} (isNumber : first.isNaN = false)
    (alsoNumber : second.isNaN = false) :
    first.toModel.unpack.compare second.toModel.unpack =
      some (compare (rank first) (rank second)) := by
  rcases number_cases isNumber with finite | ⟨sign, infinite⟩ <;>
    rcases number_cases alsoNumber with alsoFinite | ⟨other, alsoInfinite⟩
  · rw [compare_unpack finite alsoFinite, rank_finite finite, rank_finite alsoFinite, compare_coe]
  · rw [rank, rank, alsoInfinite, compare_swap, compare_infinity other finite, Option.map_some,
      ← Std.OrientedCmp.eq_swap]
  · rw [rank, rank, infinite, compare_infinity sign alsoFinite]
  · rw [rank, rank, infinite, alsoInfinite, compare_infinities]

theorem lt_iff_rank_lt {first second : Float} (isNumber : first.isNaN = false)
    (alsoNumber : second.isNaN = false) : first < second ↔ rank first < rank second := by
  change decide (first.toModel < second.toModel) = true ↔ _
  rw [decide_eq_true_iff]
  change (first.toModel.unpack.compare second.toModel.unpack == some .lt) = true ↔ _
  rw [compare_rank isNumber alsoNumber, beq_iff_eq, Option.some.injEq, compare_lt_iff_lt]

theorem le_iff_rank_le {first second : Float} (isNumber : first.isNaN = false)
    (alsoNumber : second.isNaN = false) : first ≤ second ↔ rank first ≤ rank second := by
  change decide (first.toModel ≤ second.toModel) = true ↔ _
  rw [decide_eq_true_iff]
  change (first.toModel.unpack.compare second.toModel.unpack).any (·.isLE) = true ↔ _
  rw [compare_rank isNumber alsoNumber]
  exact Ordering.isLE_iff_ne_gt.trans compare_le_iff_le

end Rulebook.Decimal
