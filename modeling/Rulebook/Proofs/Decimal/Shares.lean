import Rulebook.Proofs.Decimal.Order

namespace Rulebook.Decimal

open Float.Model Float.Model.UnpackedFloat

/-- There is no minus sign. -/
def IsUnsigned : UnpackedFloat → Prop
  | .notANumber => True
  | .infinity sign | .zero sign | .finite sign _ _ _ => sign = .positive

theorem isUnsigned_unpack (bits : BitVec 11) (digits : BitVec 52) :
    IsUnsigned (UnpackedFloat.unpack Format.binary64
      (packComponents Format.binary64 .positive bits digits)) := by
  simp only [UnpackedFloat.unpack, unpackSign_packComponents]
  split_ifs <;> trivial

theorem IsUnsigned.unpack_pack {unpacked : UnpackedFloat} (unsigned : IsUnsigned unpacked) :
    IsUnsigned (Float.Model.pack unpacked).unpack := by
  change IsUnsigned (UnpackedFloat.unpack Format.binary64
    (UnpackedFloat.pack Format.binary64 unpacked))
  cases unpacked with
  | notANumber => exact isUnsigned_unpack _ _
  | infinity sign =>
      obtain rfl : sign = .positive := unsigned
      exact isUnsigned_unpack _ _
  | zero sign =>
      obtain rfl : sign = .positive := unsigned
      exact isUnsigned_unpack _ _
  | finite sign mantissa exponent positive =>
      obtain rfl : sign = .positive := unsigned
      simp only [UnpackedFloat.pack]
      split_ifs <;> exact isUnsigned_unpack _ _

theorem isUnsigned_round (mantissa : Nat) (exponent : Int) (accuracy : Accuracy) :
    IsUnsigned (roundWithAccuracy Format.binary64 .positive mantissa exponent accuracy) := by
  simp only [roundWithAccuracy]
  split_ifs <;> rfl

theorem IsUnsigned.times {one other : UnpackedFloat} (unsigned : IsUnsigned one)
    (alsoUnsigned : IsUnsigned other) : IsUnsigned (UnpackedFloat.mul Format.binary64 one other) := by
  cases one <;> cases other <;> first
    | trivial
    | obtain rfl := unsigned
      obtain rfl := alsoUnsigned
      first | rfl | exact isUnsigned_round _ _ _

theorem IsUnsigned.over {one other : UnpackedFloat} (unsigned : IsUnsigned one)
    (alsoUnsigned : IsUnsigned other) : IsUnsigned (UnpackedFloat.div Format.binary64 one other) := by
  cases one <;> cases other <;> first
    | trivial
    | obtain rfl := unsigned
      obtain rfl := alsoUnsigned
      first | rfl | exact isUnsigned_round _ _ _

theorem IsUnsigned.mul {first second : Float} (unsigned : IsUnsigned first.toModel.unpack)
    (alsoUnsigned : IsUnsigned second.toModel.unpack) :
    IsUnsigned (first * second).toModel.unpack :=
  (unsigned.times alsoUnsigned).unpack_pack

theorem IsUnsigned.div {first second : Float} (unsigned : IsUnsigned first.toModel.unpack)
    (alsoUnsigned : IsUnsigned second.toModel.unpack) :
    IsUnsigned (first / second).toModel.unpack :=
  (unsigned.over alsoUnsigned).unpack_pack

theorem isUnsigned_normalize (count : Nat) (exponent : Int) :
    IsUnsigned (UnpackedFloat.normalize Format.binary64 count exponent .positive) := by
  unfold UnpackedFloat.normalize
  split
  · rename_i order
    rw [Int.compare_eq_lt] at order
    omega
  · rfl
  · exact isUnsigned_round _ _ _

theorem isUnsigned_ofScientific (mantissa : Nat) (exponent : Int) :
    IsUnsigned (UnpackedFloat.ofScientific Format.binary64 mantissa exponent) := by
  unfold UnpackedFloat.ofScientific
  split_ifs
  · rfl
  · rfl
  · rfl
  · exact isUnsigned_round _ _ _
  · exact isUnsigned_round _ _ _

theorem isUnsigned_toFloat (count : Nat) : IsUnsigned count.toFloat.toModel.unpack := by
  change IsUnsigned (Float.ofScientific count false 0).toModel.unpack
  unfold Float.ofScientific
  split
  · have whole : IsUnsigned (Float.exactlyRepresentablePowersOfTen[0]).toModel.unpack := by
      with_unfolding_all rfl
    exact IsUnsigned.mul (isUnsigned_normalize count.toUInt64.toNat 0).unpack_pack whole
  · exact (isUnsigned_ofScientific count 0).unpack_pack

theorem unpack_half : (0.5 : Float).toModel.unpack =
    .finite .positive (2 ^ 52) (-53) (Nat.two_pow_pos 52) := by
  with_unfolding_all rfl

theorem unpack_one : (1.0 : Float).toModel.unpack =
    .finite .positive (2 ^ 52) (-52) (Nat.two_pow_pos 52) := by
  with_unfolding_all rfl

theorem isUnsigned_one : IsUnsigned (1.0 : Float).toModel.unpack := by
  rw [unpack_one]
  rfl

theorem isUnsigned_ten : IsUnsigned (10.0 : Float).toModel.unpack := by
  with_unfolding_all rfl

/-- A double without sign that is below one. -/
def IsSmall (unpacked : UnpackedFloat) : Prop :=
  unpacked = .zero .positive ∨ ∃ mantissa exponent positive,
    unpacked = .finite .positive mantissa exponent positive ∧ mantissa < 2 ^ 53 ∧ exponent ≤ -53

theorem isSmall_of_lt_one {share : Float} (unsigned : IsUnsigned share.toModel.unpack)
    (below : share < 1.0) : IsSmall share.toModel.unpack := by
  change decide (share.toModel < (1.0 : Float).toModel) = true at below
  rw [decide_eq_true_iff] at below
  change (share.toModel.unpack.compare (1.0 : Float).toModel.unpack == some .lt) = true at below
  rw [unpack_one, beq_iff_eq] at below
  cases unpacked : share.toModel.unpack with
  | notANumber =>
      rw [unpacked] at below
      cases below
  | infinity sign =>
      rw [unpacked] at below unsigned
      obtain rfl : sign = .positive := unsigned
      cases below
  | zero sign =>
      rw [unpacked] at unsigned
      exact .inl (congrArg UnpackedFloat.zero unsigned)
  | finite sign mantissa exponent positive =>
      obtain ⟨form, -⟩ := canonical_of_unpack unpacked
      rw [unpacked] at below unsigned
      obtain rfl : sign = .positive := unsigned
      have order : (compare exponent (-52)).then (compare mantissa (2 ^ 52)) = .lt :=
        Option.some.inj below
      rw [Ordering.then_eq_lt, compare_lt_iff_lt, compare_eq_iff_eq, compare_lt_iff_lt] at order
      have full := form.full
      exact .inr ⟨mantissa, exponent, positive, rfl, form.short, by omega⟩

theorem isSmall_unpack_pack {mantissa : Nat} {exponent : Int} (positive : 0 < mantissa)
    (lower : -1074 ≤ exponent) (low : exponent ≤ -53) :
    IsSmall (Float.Model.pack (.finite .positive mantissa exponent positive)).unpack := by
  have unsigned := IsUnsigned.unpack_pack
    (show IsUnsigned (.finite .positive mantissa exponent positive) from rfl)
  rcases unpack_pack_finite .positive mantissa positive lower (by omega) with
    ⟨sign, zero⟩ | ⟨sign, found, place, some, finite, short, placed⟩
  · rw [zero] at unsigned ⊢
    exact .inl (congrArg UnpackedFloat.zero unsigned)
  · rw [finite] at unsigned ⊢
    obtain rfl : sign = .positive := unsigned
    exact .inr ⟨found, place, some, rfl, short, placed.trans low⟩

theorem IsSmall.half {share : Float} (small : IsSmall share.toModel.unpack) :
    IsSmall (0.5 * share).toModel.unpack := by
  have product : (0.5 * share).toModel.unpack = (Float.Model.pack
      (UnpackedFloat.mul Format.binary64 (0.5 : Float).toModel.unpack share.toModel.unpack)).unpack :=
    rfl
  have zero : IsSmall (Float.Model.pack (.zero .positive)).unpack :=
    .inl (by with_unfolding_all rfl)
  rw [product, unpack_half]
  rcases small with isZero | ⟨mantissa, exponent, positive, finite, short, low⟩
  · rw [isZero]
    exact zero
  · rw [finite]
    change IsSmall (Float.Model.pack (roundWithAccuracy Format.binary64 .positive
      (2 ^ 52 * mantissa) (-53 + exponent) .exact)).unpack
    have bits := log2_lt_of_lt short (by decide)
    have place : (shiftToTargetExponent Format.binary64 (2 ^ 52 * mantissa) (-53 + exponent)
        .exact).2 ≤ -54 := by
      simp only [shiftToTargetExponent, targetExponent_eq, shiftToExponent, Nat.mul_comm (2 ^ 52),
        log2_scaled positive]
      omega
    have lower := shift_lower (2 ^ 52 * mantissa) (-53 + exponent)
    rcases round_cases .positive (2 ^ 52 * mantissa) (-53 + exponent) with
      ⟨-, ended⟩ | ⟨-, found, some, ended⟩
    · exact ended ▸ zero
    · rw [ended]
      exact isSmall_unpack_pack some (by split <;> omega) (by split <;> omega)

/-- Rounding a long number leaves its leading 53 bits, or those of the next one. -/
theorem roundWithAccuracy_long (sign : Sign) {mantissa : Nat} {exponent : Int}
    (long : 2 ^ 52 ≤ mantissa) (lower : -1074 ≤ mantissa.log2 + exponent - 52) :
    ∃ found place positive, roundWithAccuracy Format.binary64 sign mantissa exponent .exact =
        .finite sign found place positive ∧
      IsCanonical found place ∧ place ≤ mantissa.log2 + exponent - 51 := by
  have bits : 52 ≤ mantissa.log2 := (Nat.le_log2 (by omega)).mpr long
  let first := shiftToTargetExponent Format.binary64 mantissa exponent .exact
  have place : first.2 = mantissa.log2 + exponent - 52 := by
    simp only [first, shiftToTargetExponent, targetExponent_eq, shiftToExponent]
    omega
  have leading : 2 ^ 52 ≤ first.1.mantissa := by
    have count : (max ((mantissa.log2 : Int) + exponent - 52) (-1074) - exponent).toNat =
        mantissa.log2 - 52 := by omega
    simp only [first, shiftToTargetExponent, targetExponent_eq, shiftToExponent, count,
      shift_mantissa, ExtendedMantissa.ofMantissaAndAccuracy]
    rw [Nat.le_div_iff_mul_le (Nat.two_pow_pos _), ← Nat.pow_add, Nat.add_sub_cancel' bits]
    exact Nat.log2_self_le (by omega)
  have short : first.1.roundedMantissa ≤ 2 ^ 53 :=
    (roundedMantissa_bounds first.1).2.trans (shift_short mantissa exponent)
  have large := leading.trans (roundedMantissa_bounds first.1).1
  obtain ⟨finalMantissa, finalExponent⟩ := shift_rounded short (place ▸ lower)
  have ended : roundWithAccuracy Format.binary64 sign mantissa exponent .exact =
      if zero : (shiftToTargetExponent Format.binary64 first.1.roundedMantissa first.2
        .exact).1.mantissa = 0 then .zero sign
      else .finite sign _ (shiftToTargetExponent Format.binary64 first.1.roundedMantissa first.2
        .exact).2 (Nat.pos_of_ne_zero zero) := rfl
  have something : (shiftToTargetExponent Format.binary64 first.1.roundedMantissa first.2
      .exact).1.mantissa ≠ 0 := by
    split at finalMantissa <;> omega
  rw [dif_neg something] at ended
  refine ⟨_, _, _, ended, ?_, ?_⟩
  · rw [finalMantissa, finalExponent, place]
    split <;> exact ⟨by omega, by omega, .inl (by omega)⟩
  · rw [finalExponent, place]
    split <;> omega

/-- A long number is rounded without adding zeros to it. -/
theorem round_long (sign : Sign) {mantissa : Nat} (exponent : Int) (long : 2 ^ 52 ≤ mantissa) :
    UnpackedFloat.round Format.binary64 sign mantissa exponent =
      roundWithAccuracy Format.binary64 sign mantissa exponent .exact := by
  have bits : 52 ≤ mantissa.log2 := (Nat.le_log2 (by omega)).mpr long
  have kept : (exponent - Format.binary64.targetExponent
      (totalExponent mantissa exponent)).toNat = 0 := by
    rw [targetExponent_eq]
    omega
  simp only [UnpackedFloat.round, decreaseExponent, kept, Nat.shiftLeft_zero, Nat.cast_zero,
    Int.sub_zero]

/-- Both are counted in the steps of the smaller one. -/
theorem half_add {mantissa : Nat} (positive : 0 < mantissa) (count : Nat) :
    UnpackedFloat.add Format.binary64 (.finite .positive (2 ^ 52) (-53) (Nat.two_pow_pos 52))
        (.finite .positive mantissa (-53 - count) positive) =
      UnpackedFloat.round Format.binary64 .positive (2 ^ (52 + count) + mantissa) (-53 - count) := by
  have least : min (-53 : Int) (-53 - count) = -53 - count := by omega
  have steps : (-53 - (-53 - count : Int)).toNat = count := by omega
  have none : (-53 - (count : Int) - (-53 - count)).toNat = 0 := by omega
  rw [← normalize_apply .positive (Nat.add_pos_right _ positive)]
  simp only [UnpackedFloat.add, decreaseExponent, least, steps, none, Nat.shiftLeft_eq,
    Nat.pow_zero, Nat.mul_one, ← Nat.pow_add]
  rfl

theorem log2_sum {mantissa : Nat} (short : mantissa < 2 ^ 53) (count : Nat) :
    52 + count ≤ (2 ^ (52 + count) + mantissa).log2 ∧
      (2 ^ (52 + count) + mantissa).log2 < 54 + count := by
  have some : 2 ^ (52 + count) + mantissa ≠ 0 :=
    (Nat.add_pos_left (Nat.two_pow_pos _) mantissa).ne'
  refine ⟨(Nat.le_log2 some).mpr (Nat.le_add_right _ _), (Nat.log2_lt some).mpr ?_⟩
  have room : 2 ^ 53 ≤ 2 ^ (53 + count) := Nat.pow_le_pow_right (by decide) (by omega)
  have quarter : 2 ^ (52 + count) ≤ 2 ^ (53 + count) := Nat.pow_le_pow_right (by decide) (by omega)
  have half : 2 ^ (54 + count) = 2 ^ (53 + count) + 2 ^ (53 + count) := by
    rw [← Nat.two_mul, ← Nat.pow_succ']
    congr 1
    omega
  omega

theorem unpack_half_add {share : Float} (small : IsSmall share.toModel.unpack) :
    ∃ mantissa exponent positive,
      (0.5 + share).toModel.unpack = .finite .positive mantissa exponent positive := by
  have sum : (0.5 + share).toModel.unpack = (Float.Model.pack
      (UnpackedFloat.add Format.binary64 (0.5 : Float).toModel.unpack share.toModel.unpack)).unpack :=
    rfl
  rw [sum, unpack_half]
  -- The sum may be rounded, but it has its leading bits from one half, and no more than one more.
  rcases small with isZero | ⟨mantissa, exponent, positive, finite, short, low⟩
  · rw [isZero]
    exact ⟨_, _, _, unpack_pack_canonical .positive ⟨by decide, by decide, by decide⟩ (by decide)
      (by decide)⟩
  · obtain ⟨count, rfl⟩ : ∃ count : Nat, exponent = -53 - count :=
      ⟨(-53 - exponent).toNat, by omega⟩
    have long : 2 ^ 52 ≤ 2 ^ (52 + count) + mantissa :=
      (Nat.pow_le_pow_right (by decide) (Nat.le_add_right 52 count)).trans (Nat.le_add_right _ _)
    obtain ⟨bits, fewBits⟩ := log2_sum short count
    obtain ⟨found, place, nonzero, ended, form, placed⟩ :=
      @roundWithAccuracy_long .positive _ (-53 - count) long (by omega)
    rw [finite, half_add, round_long .positive _ long, ended]
    exact ⟨_, _, _, unpack_pack_canonical .positive form nonzero (by omega)⟩

theorem isNaN_packedInfinity (sign : Sign) :
    (UnpackedFloat.unpack Format.binary64 (packedInfinity Format.binary64 sign)).isNaN = false := by
  cases sign <;> decide

theorem isNaN_unpack_pack {unpacked : UnpackedFloat} (isNumber : unpacked.isNaN = false) :
    (Float.Model.pack unpacked).unpack.isNaN = false := by
  change (UnpackedFloat.unpack Format.binary64
    (UnpackedFloat.pack Format.binary64 unpacked)).isNaN = false
  cases unpacked with
  | notANumber => cases isNumber
  | infinity sign => exact isNaN_packedInfinity sign
  | zero sign => cases sign <;> decide
  | finite sign mantissa exponent positive =>
      rcases Int.lt_or_le exponent 972 with small | large
      · obtain ⟨bits, digits, packed, notFull, -⟩ := pack_small sign mantissa positive small
        rw [packed]
        rcases unpack_packComponents sign digits notFull with
          ⟨other, zero⟩ | ⟨other, found, place, some, finite, -⟩
        · rw [zero]
          rfl
        · rw [finite]
          rfl
      · rw [pack_large sign mantissa positive large]
        exact isNaN_packedInfinity sign

theorem isNaN_round (sign : Sign) (mantissa : Nat) (exponent : Int) (accuracy : Accuracy) :
    (roundWithAccuracy Format.binary64 sign mantissa exponent accuracy).isNaN = false := by
  simp only [roundWithAccuracy]
  split_ifs <;> rfl

theorem isNaN_mul {first second : Float} (isNumber : first.isNaN = false) {sign : Sign}
    {mantissa : Nat} {exponent : Int} {positive : 0 < mantissa}
    (finite : second.toModel.unpack = .finite sign mantissa exponent positive) :
    (first * second).isNaN = false := by
  change (Float.Model.pack (UnpackedFloat.mul Format.binary64 first.toModel.unpack
    second.toModel.unpack)).unpack.isNaN = false
  change first.toModel.unpack.isNaN = false at isNumber
  rw [finite]
  refine isNaN_unpack_pack ?_
  generalize first.toModel.unpack = unpacked at *
  cases unpacked with
  | notANumber => cases isNumber
  | infinity | zero => rfl
  | finite => exact isNaN_round _ _ _ _

end Rulebook.Decimal
