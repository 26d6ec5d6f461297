import Mathlib
import Rulebook.Decimal.Reading

/-!
The range of doubles. A double is made by shifting the bits of a number until 53 of them are left,
rounding to the nearest, and packing the outcome, which becomes an infinity when its exponent is
too large. What this comes to for integers is the bound `rangeLimit`.
-/

namespace Rulebook.Decimal

open Float.Model Float.Model.UnpackedFloat

/-- The least magnitude of an integer that is beyond the range of doubles. The largest of them is
`2 ^ 53 - 1` steps of `2 ^ 971`, and the limit stands half a step beyond it. -/
def rangeLimit : Nat := (2 ^ 54 - 1) * 2 ^ 970

theorem isInf_packedInfinity (sign : Sign) :
    (UnpackedFloat.unpack Format.binary64 (packedInfinity Format.binary64 sign)).isInf = true := by
  cases sign <;> decide

theorem unpack_packComponents (sign : Sign) {exponent : BitVec 11} (mantissa : BitVec 52)
    (notFull : exponent ≠ 2047#11) :
    let unpacked := UnpackedFloat.unpack Format.binary64
      (packComponents Format.binary64 sign exponent mantissa)
    (∃ sign, unpacked = .zero sign) ∨ ∃ sign found place positive,
      unpacked = .finite sign found place positive ∧ found < 2 ^ 53 ∧
        place = max (exponent.toNat : Int) 1 - 1075 := by
  intro unpacked
  have ones : -BitVec.ofNat Format.binary64.exponentBits 1 = 2047#11 := rfl
  have bias : ((Format.binary64.exponentBias : Int) + Format.binary64.mantissaBitsWithoutImplicit) =
      1075 := rfl
  simp only [unpacked, UnpackedFloat.unpack, unpackExponent_packComponents,
    unpackMantissa_packComponents, ones, bias, notFull, if_false]
  by_cases low : exponent = 0#11
  · simp only [low, if_true]
    by_cases blank : mantissa = 0#52
    · exact .inl ⟨_, dif_pos blank⟩
    · have positive : 0 < mantissa.toNat :=
        Nat.pos_of_ne_zero fun zero => blank (BitVec.eq_of_toNat_eq zero)
      refine .inr ⟨_, _, _, positive, dif_neg blank, ?_, rfl⟩
      exact mantissa.isLt.trans (by decide)
  · have some : exponent.toNat ≠ 0 := fun zero => low (BitVec.eq_of_toNat_eq zero)
    have positive : 0 < (1#1 ++ mantissa).toNat := by
      rw [BitVec.toNat_append]
      exact Nat.lt_of_lt_of_le (by decide) Nat.left_le_or
    rw [if_neg low]
    exact .inr ⟨_, _, _, positive, rfl, (1#1 ++ mantissa).isLt, by omega⟩

/-- Packing makes an infinity of an exponent beyond that of the largest double. -/
theorem pack_large (sign : Sign) (mantissa : Nat) {exponent : Int} (positive : 0 < mantissa)
    (large : 972 ≤ exponent) :
    UnpackedFloat.pack Format.binary64 (.finite sign mantissa exponent positive) =
      packedInfinity Format.binary64 sign := by
  refine if_pos ?_
  change 2048 ≤ (exponent + 1023 + 52).toNat + 1
  omega

theorem pack_small (sign : Sign) (mantissa : Nat) {exponent : Int} (positive : 0 < mantissa)
    (small : exponent < 972) :
    ∃ bits digits, UnpackedFloat.pack Format.binary64 (.finite sign mantissa exponent positive) =
      packComponents Format.binary64 sign bits digits ∧
      bits ≠ 2047#11 ∧ bits.toNat ≤ (exponent + 1075).toNat := by
  have biased : (exponent + Format.binary64.exponentBias +
      Format.binary64.mantissaBitsWithoutImplicit).toNat = (exponent + 1075).toNat := by
    change (exponent + 1023 + 52).toNat = _
    omega
  have bits : (BitVec.ofNat 11 (exponent + 1075).toNat).toNat = (exponent + 1075).toNat := by
    rw [BitVec.toNat_ofNat]
    omega
  have notFull : BitVec.ofNat 11 (exponent + 1075).toNat ≠ 2047#11 := by
    intro full
    rw [full] at bits
    change 2047 = _ at bits
    omega
  simp only [UnpackedFloat.pack, biased]
  rw [if_neg (by change ¬ 2048 ≤ _; omega)]
  split
  · exact ⟨_, _, rfl, notFull, bits.le⟩
  · exact ⟨_, _, rfl, by decide, Nat.zero_le _⟩

theorem isInf_pack_finite (sign : Sign) (mantissa : Nat) (exponent : Int)
    (positive : 0 < mantissa) :
    (Float.Model.pack (.finite sign mantissa exponent positive)).isInf =
      decide (972 ≤ exponent) := by
  change (UnpackedFloat.unpack Format.binary64 (UnpackedFloat.pack Format.binary64
    (.finite sign mantissa exponent positive))).isInf = _
  by_cases large : 972 ≤ exponent
  · rw [pack_large sign mantissa positive large, isInf_packedInfinity, decide_eq_true large]
  · obtain ⟨bits, digits, packed, notFull, -⟩ :=
      pack_small sign mantissa positive (Int.not_le.mp large)
    rw [packed, decide_eq_false large]
    rcases unpack_packComponents sign digits notFull with
      ⟨sign, zero⟩ | ⟨sign, found, place, some, finite, -⟩
    · rw [zero]
      rfl
    · rw [finite]
      rfl

theorem unpack_pack_finite (sign : Sign) (mantissa : Nat) {exponent : Int}
    (positive : 0 < mantissa) (lower : -1074 ≤ exponent) (upper : exponent < 972) :
    let unpacked := (Float.Model.pack (.finite sign mantissa exponent positive)).unpack
    (∃ sign, unpacked = .zero sign) ∨ ∃ sign found place positive,
      unpacked = .finite sign found place positive ∧ found < 2 ^ 53 ∧ place ≤ exponent := by
  intro unpacked
  obtain ⟨bits, digits, packed, notFull, bounded⟩ := pack_small sign mantissa positive upper
  have same : unpacked = UnpackedFloat.unpack Format.binary64
      (packComponents Format.binary64 sign bits digits) := packed ▸ rfl
  rw [same]
  refine (unpack_packComponents sign digits notFull).imp_right ?_
  rintro ⟨sign, found, place, some, finite, short, placed⟩
  exact ⟨sign, found, place, some, finite, short, by omega⟩

theorem shift_mantissa (extended : ExtendedMantissa) (count : Nat) :
    (extended >>> count).mantissa = extended.mantissa / 2 ^ count := by
  induction count with
  | zero => exact (Nat.div_one _).symm
  | succ count ih =>
      change (extended >>> count).mantissa / 2 = _
      rw [ih, Nat.div_div_eq_div_mul, Nat.pow_succ]

/-- The last bit that is shifted out is kept for the rounding. -/
theorem shift_roundBit (mantissa count : Nat) :
    (ExtendedMantissa.mk mantissa false false >>> (count + 1)).roundBit =
      (mantissa / 2 ^ count % 2 != 0) := by
  change ((ExtendedMantissa.mk mantissa false false >>> count).mantissa % 2 != 0) = _
  rw [shift_mantissa]

theorem roundedMantissa_bounds (extended : ExtendedMantissa) :
    extended.mantissa ≤ extended.roundedMantissa ∧
      extended.roundedMantissa ≤ extended.mantissa + 1 := by
  obtain ⟨mantissa, roundBit, stickyBit⟩ := extended
  unfold ExtendedMantissa.roundedMantissa
  cases roundBit <;> cases stickyBit <;>
    simp only [ExtendedMantissa.accuracy, Accuracy.roundToNearestEven] <;> omega

/-- An odd number is rounded up if and only if at least half of a step was shifted out. -/
theorem roundedMantissa_of_odd {extended : ExtendedMantissa} (odd : extended.mantissa % 2 = 1) :
    extended.roundedMantissa = extended.mantissa + if extended.roundBit then 1 else 0 := by
  obtain ⟨mantissa, roundBit, stickyBit⟩ := extended
  unfold ExtendedMantissa.roundedMantissa
  cases roundBit <;> cases stickyBit <;>
    simp [ExtendedMantissa.accuracy, Accuracy.roundToNearestEven] at odd ⊢
  omega

theorem targetExponent_eq (mantissa : Nat) (exponent : Int) :
    Format.binary64.targetExponent (totalExponent mantissa exponent) =
      max (mantissa.log2 + exponent - 52) (-1074) := by
  change max ((mantissa.log2 : Int) + 1 + exponent - 53) (-1074) = _
  omega

theorem log2_lt_of_lt {number count : Nat} (small : number < 2 ^ count) (some : 0 < count) :
    number.log2 < count := by
  by_cases zero : number = 0
  · simpa [zero] using some
  · exact (Nat.log2_lt zero).mpr small

/-- What has been rounded is shifted once more only if a carry has made it too long. -/
theorem shift_rounded {mantissa : Nat} {exponent : Int} (short : mantissa ≤ 2 ^ 53)
    (lower : -1074 ≤ exponent) :
    (shiftToTargetExponent Format.binary64 mantissa exponent .exact).1.mantissa =
        (if mantissa = 2 ^ 53 then 2 ^ 52 else mantissa) ∧
      (shiftToTargetExponent Format.binary64 mantissa exponent .exact).2 =
        exponent + if mantissa = 2 ^ 53 then 1 else 0 := by
  simp only [shiftToTargetExponent, targetExponent_eq, shiftToExponent, shift_mantissa]
  by_cases carried : mantissa = 2 ^ 53
  · subst carried
    have count :
        (max (((2 ^ 53 : Nat).log2 : Int) + exponent - 52) (-1074) - exponent).toNat = 1 := by
      rw [Nat.log2_two_pow]
      omega
    rw [count]
    exact ⟨rfl, rfl⟩
  · have bits := log2_lt_of_lt (Nat.lt_of_le_of_ne short carried) (by decide)
    have count : (max ((mantissa.log2 : Int) + exponent - 52) (-1074) - exponent).toNat = 0 := by
      omega
    rw [count, if_neg carried, if_neg carried]
    exact ⟨Nat.div_one _, rfl⟩

theorem shift_lower (mantissa : Nat) (exponent : Int) :
    -1074 ≤ (shiftToTargetExponent Format.binary64 mantissa exponent .exact).2 := by
  simp only [shiftToTargetExponent, targetExponent_eq, shiftToExponent]
  omega

theorem shift_short (mantissa : Nat) (exponent : Int) :
    (shiftToTargetExponent Format.binary64 mantissa exponent .exact).1.mantissa < 2 ^ 53 := by
  simp only [shiftToTargetExponent, targetExponent_eq, shiftToExponent, shift_mantissa,
    ExtendedMantissa.ofMantissaAndAccuracy]
  refine Nat.div_lt_of_lt_mul (Nat.lt_of_lt_of_le Nat.lt_log2_self ?_)
  rw [← Nat.pow_add]
  exact Nat.pow_le_pow_right (by decide) (by omega)

/-- Rounding ends in zero, or in a number whose exponent is that of the first shift, a carry being
counted. -/
theorem round_cases (sign : Sign) (mantissa : Nat) (exponent : Int) :
    let first := shiftToTargetExponent Format.binary64 mantissa exponent .exact
    let rounded := roundWithAccuracy Format.binary64 sign mantissa exponent .exact
    (first.1.roundedMantissa = 0 ∧ rounded = .zero sign) ∨
      (0 < first.1.roundedMantissa ∧ ∃ found positive, rounded = .finite sign found
        (first.2 + if first.1.roundedMantissa = 2 ^ 53 then 1 else 0) positive) := by
  intro first rounded
  have short : first.1.roundedMantissa ≤ 2 ^ 53 :=
    (roundedMantissa_bounds first.1).2.trans (shift_short mantissa exponent)
  have lower : -1074 ≤ first.2 := shift_lower mantissa exponent
  obtain ⟨finalMantissa, finalExponent⟩ := shift_rounded short lower
  have ended : rounded = if zero : (shiftToTargetExponent Format.binary64
      first.1.roundedMantissa first.2 .exact).1.mantissa = 0 then .zero sign
    else .finite sign _ (shiftToTargetExponent Format.binary64 first.1.roundedMantissa first.2
      .exact).2 (Nat.pos_of_ne_zero zero) := rfl
  rw [ended]
  by_cases nothing : first.1.roundedMantissa = 0
  · rw [if_neg (by omega), nothing] at finalMantissa
    exact .inl ⟨nothing, by rw [nothing, dif_pos finalMantissa]⟩
  · have something : (shiftToTargetExponent Format.binary64 first.1.roundedMantissa first.2
        .exact).1.mantissa ≠ 0 := by
      split at finalMantissa <;> omega
    rw [dif_neg something, ← finalExponent]
    exact .inr ⟨Nat.pos_of_ne_zero nothing, _, _, rfl⟩

theorem isInf_pack_zero (sign : Sign) : (Float.Model.pack (.zero sign)).isInf = false := by
  cases sign <;> decide

/-- What is rounded becomes an infinity if it is not zero and its exponent is too large. -/
theorem isInf_round (sign : Sign) (mantissa : Nat) (exponent : Int) :
    let first := shiftToTargetExponent Format.binary64 mantissa exponent .exact
    (Float.Model.pack (roundWithAccuracy Format.binary64 sign mantissa exponent .exact)).isInf =
      decide (0 < first.1.roundedMantissa ∧
        972 ≤ first.2 + if first.1.roundedMantissa = 2 ^ 53 then 1 else 0) := by
  intro first
  rcases round_cases sign mantissa exponent with
    ⟨nothing, ended⟩ | ⟨something, found, positive, ended⟩
  · simp [ended, isInf_pack_zero, first, nothing]
  · rw [ended, isInf_pack_finite]
    simp [first, something]

theorem rangeLimit_le_iff (number : Nat) :
    rangeLimit ≤ number ↔ 2 ^ 54 - 1 ≤ number / 2 ^ 970 := by
  rw [rangeLimit, Nat.le_div_iff_mul_le (Nat.two_pow_pos 970)]

theorem log2_scaled {number : Nat} (positive : 0 < number) (count : Nat) :
    (number * 2 ^ count).log2 = number.log2 + count := by
  have scaled : 0 < number * 2 ^ count := Nat.mul_pos positive (Nat.two_pow_pos count)
  rw [Nat.log2_eq_iff scaled.ne', Nat.pow_add, Nat.add_right_comm, Nat.pow_add]
  exact ⟨Nat.mul_le_mul_right _ (Nat.log2_self_le positive.ne'),
    Nat.mul_lt_mul_of_pos_right Nat.lt_log2_self (Nat.two_pow_pos count)⟩

theorem shift_integer {number : Nat} (positive : 0 < number) :
    shiftToTargetExponent Format.binary64 (number * 2 ^ 53) (-53) .exact =
      (ExtendedMantissa.mk (number * 2 ^ 53) false false >>> (number.log2 + 1),
        (number.log2 : Int) - 52) := by
  have count : (max (((number * 2 ^ 53).log2 : Int) + -53 - 52) (-1074) - -53).toNat =
      number.log2 + 1 := by
    rw [log2_scaled positive]
    omega
  simp only [shiftToTargetExponent, targetExponent_eq, shiftToExponent, count,
    ExtendedMantissa.ofMantissaAndAccuracy]
  congr 1
  omega

theorem scaled_div (number count : Nat) :
    number * 2 ^ 53 / 2 ^ (53 + count) = number / 2 ^ count := by
  rw [Nat.pow_add, ← Nat.div_div_eq_div_mul, Nat.mul_div_cancel _ (Nat.two_pow_pos 53)]

/-- Of the integers with 1024 bits those are rounded up to one bit more that reach the limit. -/
theorem rounded_longest {number : Nat} (bits : number.log2 = 1023) :
    (ExtendedMantissa.mk (number * 2 ^ 53) false false >>> 1024).roundedMantissa = 2 ^ 53 ↔
      rangeLimit ≤ number := by
  have mantissa : (ExtendedMantissa.mk (number * 2 ^ 53) false false >>> 1024).mantissa =
      number / 2 ^ 970 / 2 := by
    rw [shift_mantissa, Nat.div_div_eq_div_mul, ← Nat.pow_succ]
    exact scaled_div number 971
  have roundBit : (ExtendedMantissa.mk (number * 2 ^ 53) false false >>> 1024).roundBit =
      (number / 2 ^ 970 % 2 != 0) := by
    rw [shift_roundBit]
    congr 2
    exact scaled_div number 970
  have upper : number / 2 ^ 970 < 2 ^ 54 := by
    refine Nat.div_lt_of_lt_mul ?_
    rw [← Nat.pow_add]
    have below : number < 2 ^ (number.log2 + 1) := Nat.lt_log2_self
    rwa [bits] at below
  have bounds := roundedMantissa_bounds (ExtendedMantissa.mk (number * 2 ^ 53) false false >>> 1024)
  have odd := @roundedMantissa_of_odd (ExtendedMantissa.mk (number * 2 ^ 53) false false >>> 1024)
  rw [mantissa] at bounds odd
  rw [roundBit] at odd
  rw [rangeLimit_le_iff]
  generalize number / 2 ^ 970 = halves at *
  generalize ExtendedMantissa.roundedMantissa _ = rounded at *
  constructor
  · intro carried
    -- Only a carry out of 53 ones makes it one bit longer.
    have ones : halves / 2 = 2 ^ 53 - 1 := by omega
    have up := odd (by omega)
    split at up
    · rename_i half
      have last : halves % 2 ≠ 0 := by simpa using half
      omega
    · omega
  · intro reached
    have last : (halves % 2 != 0) = true := by
      simp only [bne_iff_ne]
      omega
    have up := odd (by omega)
    rw [if_pos last] at up
    omega

theorem isInf_round_integer {number : Nat} (positive : 0 < number) :
    (Float.Model.pack (roundWithAccuracy Format.binary64 .positive (number * 2 ^ 53) (-53)
      .exact)).isInf = decide (rangeLimit ≤ number) := by
  rw [isInf_round, shift_integer positive]
  have below : number < 2 ^ (number.log2 + 1) := Nat.lt_log2_self
  have above : 2 ^ number.log2 ≤ number := Nat.log2_self_le positive.ne'
  have something : 0 < (ExtendedMantissa.mk (number * 2 ^ 53) false false >>>
      (number.log2 + 1)).roundedMantissa := by
    refine Nat.lt_of_lt_of_le ?_ (roundedMantissa_bounds _).1
    rw [shift_mantissa]
    refine Nat.div_pos ?_ (Nat.two_pow_pos _)
    rw [Nat.pow_succ]
    exact Nat.mul_le_mul above (by decide)
  simp only [something, true_and, decide_eq_decide]
  rcases Nat.lt_trichotomy number.log2 1023 with short | bits | long
  · have below : number < 2 ^ 1023 := below.trans_le (Nat.pow_le_pow_right (by decide) short)
    have limit : 2 ^ 1023 ≤ rangeLimit := by decide +kernel
    have small : ¬ rangeLimit ≤ number := Nat.not_le.mpr (below.trans_le limit)
    simp only [small, iff_false]
    split <;> omega
  · rw [← rounded_longest bits, bits]
    split
    · rename_i carried
      exact iff_of_true (by omega) carried
    · rename_i carried
      exact iff_of_false (by omega) carried
  · have above : 2 ^ 1024 ≤ number := (Nat.pow_le_pow_right (by decide) long).trans above
    have limit : rangeLimit ≤ 2 ^ 1024 := by decide +kernel
    have large : rangeLimit ≤ number := limit.trans above
    simp only [large, iff_true]
    split <;> omega

theorem isInf_mul_one (sign : Sign) {mantissa : Nat} {exponent : Int} (positive : 0 < mantissa)
    (short : mantissa < 2 ^ 53) (small : exponent ≤ 1) :
    (Float.Model.pack (UnpackedFloat.mul Format.binary64 (.finite sign mantissa exponent positive)
      (.finite .positive (2 ^ 52) (-52) (by decide)))).isInf = false := by
  have bits := log2_lt_of_lt short (by decide)
  have place : (shiftToTargetExponent Format.binary64 (mantissa * 2 ^ 52) (exponent + -52)
      .exact).2 ≤ 1 := by
    simp only [shiftToTargetExponent, targetExponent_eq, shiftToExponent, log2_scaled positive]
    omega
  change (Float.Model.pack (roundWithAccuracy Format.binary64 _ (mantissa * 2 ^ 52)
    (exponent + -52) .exact)).isInf = false
  rw [isInf_round, decide_eq_false_iff_not]
  split <;> omega

/-- An integer of less than 54 bits is rounded to a small exponent. -/
theorem normalize_short {number : Nat} (short : number < 2 ^ 53) :
    let normal := UnpackedFloat.normalize Format.binary64 number 0 .positive
    normal = .zero .positive ∨ ∃ found exponent positive,
      normal = .finite .positive found exponent positive ∧ -1074 ≤ exponent ∧ exponent ≤ 1 := by
  intro normal
  by_cases zero : number = 0
  · subst zero
    exact .inl rfl
  · have bits := log2_lt_of_lt short (by decide)
    have count : (0 - Format.binary64.targetExponent (totalExponent number 0)).toNat =
        52 - number.log2 := by
      rw [targetExponent_eq]
      omega
    have rounded : normal = roundWithAccuracy Format.binary64 .positive
        (number * 2 ^ (52 - number.log2)) (0 - (52 - number.log2 : Nat)) .exact := by
      have order : compare (number : Int) 0 = .gt := by
        rw [Int.compare_eq_gt]
        omega
      simp only [normal, UnpackedFloat.normalize, order, UnpackedFloat.round, decreaseExponent,
        Int.toNat_natCast, count, Nat.shiftLeft_eq]
    have place : (shiftToTargetExponent Format.binary64 (number * 2 ^ (52 - number.log2))
        (0 - (52 - number.log2 : Nat)) .exact).2 ≤ 0 := by
      simp only [shiftToTargetExponent, targetExponent_eq, shiftToExponent,
        log2_scaled (Nat.pos_of_ne_zero zero)]
      omega
    have lower := shift_lower (number * 2 ^ (52 - number.log2)) (0 - (52 - number.log2 : Nat))
    rcases round_cases .positive (number * 2 ^ (52 - number.log2)) (0 - (52 - number.log2 : Nat))
      with ⟨-, ended⟩ | ⟨-, found, positive, ended⟩
    · exact .inl (rounded.trans ended)
    · refine .inr ⟨found, _, positive, rounded.trans ended, ?_⟩
      split <;> omega

/-- Integers of less than 54 bits are doubles, and multiplying them by one leads to no infinity. -/
theorem isInf_short {number : Nat} (short : number < 2 ^ 53) :
    (number.toUInt64.toFloat * Float.exactlyRepresentablePowersOfTen[0]).isInf = false := by
  have same : number.toUInt64.toNat = number := by
    simp
    omega
  have product : (number.toUInt64.toFloat * Float.exactlyRepresentablePowersOfTen[0]).isInf =
      (Float.Model.pack (UnpackedFloat.mul Format.binary64
        (Float.Model.pack (UnpackedFloat.normalize Format.binary64 number 0 .positive)).unpack
        (.finite .positive (2 ^ 52) (-52) (by decide)))).isInf := by
    conv_rhs => rw [← same]
    rfl
  rw [product]
  rcases normalize_short short with zero | ⟨found, exponent, positive, ended, lower, upper⟩
  · rw [zero]
    exact isInf_pack_zero .positive
  · rw [ended]
    rcases unpack_pack_finite .positive found positive lower (by omega) with
      ⟨sign, zero⟩ | ⟨sign, mantissa, place, some, same, short, placed⟩
    · rw [zero]
      exact isInf_pack_zero _
    · rw [same]
      exact isInf_mul_one sign some short (placed.trans upper)

theorem isInf_ofScientific (number : Nat) :
    (Float.ofScientific number false 0).isInf = decide (rangeLimit ≤ number) := by
  unfold Float.ofScientific
  split
  · rename_i short
    have limit : 2 ^ 53 ≤ rangeLimit := by decide +kernel
    simp only [Bool.false_eq_true, if_false]
    rw [isInf_short short.1]
    simp [Nat.not_le.mpr (short.1.trans_le limit)]
  · rename_i long
    have positive : 0 < number := by omega
    rw [← isInf_round_integer positive]
    have made : UnpackedFloat.ofScientific Format.binary64 number 0 =
        roundWithAccuracy Format.binary64 .positive ((number <<< 53) * 10 ^ 0) (-53) .exact := by
      unfold UnpackedFloat.ofScientific
      rw [dif_neg positive.ne', if_neg (by decide), if_neg (by simp), if_pos (by decide)]
      rfl
    rw [Nat.shiftLeft_eq, Nat.pow_zero, Nat.mul_one] at made
    rw [← made]
    rfl

theorem isInf_nearest (number : Nat) : (nearest number 0).isInf = decide (rangeLimit ≤ number) := by
  simp only [nearest]
  split
  · rename_i zero
    subst zero
    decide +kernel
  · split
    · rename_i long
      have digits : ¬ (Nat.repr number).length ≤ 310 := by
        change 310 < 0 + ((Nat.repr number).length : Int) at long
        omega
      rw [Nat.length_repr_le_iff (by decide), Nat.not_lt] at digits
      have limit : rangeLimit ≤ 10 ^ 310 := by decide +kernel
      rw [decide_eq_true (limit.trans digits)]
      decide +kernel
    · split
      · omega
      · exact isInf_ofScientific number

/-- An integer has a nearest double unless it is beyond the range of doubles. -/
theorem ofInteger?_eq_none_iff (n : Int) : ofInteger? n = none ↔ rangeLimit ≤ n.natAbs := by
  simp [ofInteger?, isInf_nearest]

end Rulebook.Decimal
