import Rulebook.Proofs.Decimal.Comparison
import Rulebook.Proofs.Decimal.Range

namespace Rulebook.Decimal

open Float.Model Float.Model.UnpackedFloat

/-- The number that an unpacked double stands for. The infinities and what is no number count as
zero. -/
def worthOf : UnpackedFloat → ℚ
  | .finite sign mantissa exponent _ => (sign.apply mantissa : ℤ) * 2 ^ exponent
  | _ => 0

/-- The number that a double stands for. -/
def worth (number : Float) : ℚ := worthOf number.toModel.unpack

/-- The form of a double that is neither zero nor infinite: 53 bits, or fewer with the least
exponent. -/
structure IsCanonical (mantissa : Nat) (exponent : Int) : Prop where
  short : mantissa < 2 ^ 53
  lower : -1074 ≤ exponent
  full : 2 ^ 52 ≤ mantissa ∨ exponent = -1074

theorem toNat_leadingOne (digits : BitVec 52) : (1#1 ++ digits).toNat = 2 ^ 52 + digits.toNat := by
  rw [BitVec.toNat_append, ← Nat.shiftLeft_add_eq_or_of_lt digits.isLt]
  rfl

theorem canonical_of_unpack {number : Float.Model} {sign : Sign} {mantissa : Nat} {exponent : Int}
    {positive : 0 < mantissa} (unpacked : number.unpack = .finite sign mantissa exponent positive) :
    IsCanonical mantissa exponent ∧ exponent < 972 := by
  unfold Float.Model.unpack UnpackedFloat.unpack at unpacked
  dsimp only at unpacked
  let bits : BitVec 11 := @unpackExponent Format.binary64 number.toBits.toBitVec
  let digits : BitVec 52 := @unpackMantissa Format.binary64 number.toBits.toBitVec
  have bitsRange : bits.toNat < 2 ^ 11 := bits.isLt
  have digitsRange : digits.toNat < 2 ^ 52 := digits.isLt
  split at unpacked
  · split at unpacked <;> cases unpacked
  · rename_i notFull
    have finite : bits.toNat ≠ 2047 := fun same => notFull (BitVec.eq_of_toNat_eq same)
    split at unpacked
    · rename_i low
      split at unpacked
      · cases unpacked
      · have place : (bits.toNat : Int) - 1075 + 1 = -1074 := by
          rw [show bits = 0#11 from low]
          rfl
        cases unpacked
        change IsCanonical digits.toNat ((bits.toNat : Int) - 1075 + 1) ∧
          (bits.toNat : Int) - 1075 + 1 < 972
        rw [place]
        exact ⟨⟨digitsRange.trans (by decide), le_rfl, .inr rfl⟩, by decide⟩
    · rename_i notLow
      have some : bits.toNat ≠ 0 := fun same => notLow (BitVec.eq_of_toNat_eq same)
      cases unpacked
      change IsCanonical (1#1 ++ digits).toNat ((bits.toNat : Int) - 1075) ∧
        (bits.toNat : Int) - 1075 < 972
      rw [toNat_leadingOne]
      exact ⟨⟨by omega, by omega, .inl (by omega)⟩, by omega⟩

section Comparing

variable {mantissa digits : Nat} {exponent place : Int}

theorem scaled_lt_of_lt (first : IsCanonical mantissa exponent) (second : IsCanonical digits place)
    (smaller : exponent < place) : (mantissa : ℚ) * 2 ^ exponent < (digits : ℚ) * 2 ^ place := by
  have large : 2 ^ 52 ≤ digits := second.full.resolve_right fun least => by
    have lower := first.lower
    omega
  have short : (mantissa : ℚ) < 2 ^ 53 := by exact_mod_cast first.short
  have full : (2 : ℚ) ^ 52 ≤ digits := by exact_mod_cast large
  calc (mantissa : ℚ) * 2 ^ exponent < 2 ^ 53 * 2 ^ exponent := by gcongr
    _ = 2 ^ 52 * 2 ^ (exponent + 1) := by
        rw [zpow_add_one₀ two_ne_zero]
        ring
    _ ≤ digits * 2 ^ place := by
        gcongr
        · exact one_le_two
        · omega

/-- Of canonical forms the exponents are compared first. -/
theorem compare_scaled (first : IsCanonical mantissa exponent)
    (second : IsCanonical digits place) :
    (compare exponent place).then (compare mantissa digits) =
      compare ((mantissa : ℚ) * 2 ^ exponent) ((digits : ℚ) * 2 ^ place) := by
  rcases lt_trichotomy exponent place with smaller | rfl | larger
  · rw [compare_lt_iff_lt.mpr smaller, compare_lt_iff_lt.mpr (scaled_lt_of_lt first second smaller)]
    rfl
  · have steps : (0 : ℚ) < 2 ^ exponent := by positivity
    rw [compare_eq_iff_eq.mpr rfl, Ordering.eq_then]
    rcases lt_trichotomy mantissa digits with smaller | rfl | larger
    · rw [compare_lt_iff_lt.mpr smaller, eq_comm, compare_lt_iff_lt]
      exact mul_lt_mul_of_pos_right (Nat.cast_lt.mpr smaller) steps
    · rw [compare_eq_iff_eq.mpr rfl, compare_eq_iff_eq.mpr rfl]
    · rw [compare_gt_iff_gt.mpr larger, eq_comm, compare_gt_iff_gt]
      exact mul_lt_mul_of_pos_right (Nat.cast_lt.mpr larger) steps
  · rw [compare_gt_iff_gt.mpr larger, compare_gt_iff_gt.mpr (scaled_lt_of_lt second first larger)]
    rfl

end Comparing

theorem compare_neg_neg (first second : ℚ) :
    compare (-first) (-second) = (compare first second).swap := by
  rcases lt_trichotomy first second with smaller | rfl | larger
  · rw [compare_lt_iff_lt.mpr smaller, compare_gt_iff_gt.mpr (neg_lt_neg smaller)]
    rfl
  · rw [compare_eq_iff_eq.mpr rfl, compare_eq_iff_eq.mpr rfl]
    rfl
  · rw [compare_gt_iff_gt.mpr larger, compare_lt_iff_lt.mpr (neg_lt_neg larger)]
    rfl

section Worth

variable {mantissa : Nat} {exponent : Int}

@[simp]
theorem worthOf_zero (sign : Sign) : worthOf (.zero sign) = 0 := rfl

@[simp]
theorem worthOf_positive (positive : 0 < mantissa) :
    worthOf (.finite .positive mantissa exponent positive) = mantissa * 2 ^ exponent := by
  simp only [worthOf, Sign.apply, Int.cast_natCast]

@[simp]
theorem worthOf_negative (positive : 0 < mantissa) :
    worthOf (.finite .negative mantissa exponent positive) = -(mantissa * 2 ^ exponent) := by
  simp only [worthOf, Sign.apply, Int.cast_neg, Int.cast_natCast, neg_mul]

theorem worthOf_opposite (sign : Sign) (positive : 0 < mantissa) :
    worthOf (.finite (-sign) mantissa exponent positive) =
      -worthOf (.finite sign mantissa exponent positive) := by
  cases sign with
  | negative =>
      rw [worthOf_negative, neg_neg]
      exact worthOf_positive positive
  | positive =>
      rw [worthOf_positive]
      exact worthOf_negative positive

theorem scaled_pos (exponent : Int) (positive : 0 < mantissa) :
    (0 : ℚ) < (mantissa : ℚ) * 2 ^ exponent :=
  mul_pos (Nat.cast_pos.mpr positive) (zpow_pos two_pos exponent)

end Worth

theorem finite_cases {number : Float} (finite : number.isFinite = true) :
    (∃ sign, number.toModel.unpack = .zero sign) ∨
      ∃ sign mantissa exponent positive,
        number.toModel.unpack = .finite sign mantissa exponent positive ∧
        IsCanonical mantissa exponent ∧ exponent < 972 := by
  change number.toModel.unpack.isFinite = true at finite
  cases unpacked : number.toModel.unpack with
  | notANumber | infinity =>
      rw [unpacked] at finite
      cases finite
  | zero sign => exact .inl ⟨sign, rfl⟩
  | finite sign mantissa exponent positive =>
      exact .inr ⟨sign, mantissa, exponent, positive, rfl, canonical_of_unpack unpacked⟩

theorem compare_canonical {mantissa digits : Nat} {exponent place : Int} (sign other : Sign)
    (positive : 0 < mantissa) (alsoPositive : 0 < digits) (form : IsCanonical mantissa exponent)
    (alsoForm : IsCanonical digits place) :
    (UnpackedFloat.finite sign mantissa exponent positive).compare
        (.finite other digits place alsoPositive) =
      some (compare (worthOf (.finite sign mantissa exponent positive))
        (worthOf (.finite other digits place alsoPositive))) := by
  have above := scaled_pos exponent positive
  have alsoAbove := scaled_pos place alsoPositive
  cases sign with
  | negative =>
      rw [worthOf_negative]
      cases other with
      | negative =>
          rw [worthOf_negative, compare_neg_neg, ← compare_scaled form alsoForm]
          rfl
      | positive =>
          rw [worthOf_positive, compare_lt_iff_lt.mpr ((neg_lt_zero.mpr above).trans alsoAbove)]
          rfl
  | positive =>
      rw [worthOf_positive]
      cases other with
      | negative =>
          rw [worthOf_negative, compare_gt_iff_gt.mpr ((neg_lt_zero.mpr alsoAbove).trans above)]
          rfl
      | positive =>
          rw [worthOf_positive, ← compare_scaled form alsoForm]
          rfl

theorem compare_zero {digits : Nat} {place : Int} (sign other : Sign) (positive : 0 < digits) :
    (UnpackedFloat.zero sign).compare (.finite other digits place positive) =
      some (compare 0 (worthOf (.finite other digits place positive))) := by
  have above := scaled_pos place positive
  cases other with
  | negative =>
      rw [worthOf_negative, compare_gt_iff_gt.mpr (neg_lt_zero.mpr above)]
      cases sign <;> rfl
  | positive =>
      rw [worthOf_positive, compare_lt_iff_lt.mpr above]
      cases sign <;> rfl

/-- Finite doubles are compared as the numbers are that they stand for. -/
theorem compare_unpack {first second : Float} (finite : first.isFinite = true)
    (alsoFinite : second.isFinite = true) :
    first.toModel.unpack.compare second.toModel.unpack =
      some (compare (worth first) (worth second)) := by
  unfold worth
  rcases finite_cases finite with
      ⟨sign, zero⟩ | ⟨sign, mantissa, exponent, some, found, form, -⟩ <;>
    rcases finite_cases alsoFinite with
      ⟨other, alsoZero⟩ | ⟨other, digits, place, alsoSome, alsoFound, alsoForm, -⟩
  · rw [zero, alsoZero, worthOf_zero, worthOf_zero, compare_eq_iff_eq.mpr rfl]
    cases sign <;> cases other <;> rfl
  · rw [zero, alsoFound, worthOf_zero]
    exact compare_zero sign other alsoSome
  · rw [found, alsoZero, worthOf_zero, compare_swap, compare_zero other sign some, Option.map_some,
      ← Std.OrientedCmp.eq_swap]
  · rw [found, alsoFound]
    exact compare_canonical sign other some alsoSome form alsoForm

theorem le_iff_worth_le {first second : Float} (finite : first.isFinite = true)
    (alsoFinite : second.isFinite = true) : first ≤ second ↔ worth first ≤ worth second := by
  change decide (first.toModel ≤ second.toModel) = true ↔ _
  rw [decide_eq_true_iff]
  change first.toModel.unpack.le second.toModel.unpack = true ↔ _
  rw [UnpackedFloat.le, compare_unpack finite alsoFinite]
  exact Ordering.isLE_iff_ne_gt.trans compare_le_iff_le

section Rounding

variable {mantissa count number : Nat} {exponent step place : Int}

theorem targetExponent_canonical (form : IsCanonical mantissa exponent) (positive : 0 < mantissa) :
    max ((mantissa.log2 : Int) + exponent - 52) (-1074) = exponent := by
  have bits := log2_lt_of_lt form.short (by decide)
  have lower := form.lower
  rcases form.full with full | least
  · have long : 52 ≤ mantissa.log2 := (Nat.le_log2 positive.ne').mpr full
    omega
  · omega

theorem shift_exact (mantissa count : Nat) :
    ExtendedMantissa.mk (mantissa * 2 ^ count) false false >>> count =
      ⟨mantissa, false, false⟩ := by
  induction count generalizing mantissa with
  | zero => rw [Nat.pow_zero, Nat.mul_one]; rfl
  | succ count ih =>
      have doubled : mantissa * 2 ^ (count + 1) = 2 * mantissa * 2 ^ count := by
        rw [Nat.pow_succ]
        ring
      change ExtendedMantissa.shiftRightOne
        (ExtendedMantissa.mk (mantissa * 2 ^ (count + 1)) false false >>> count) = _
      rw [doubled, ih (2 * mantissa)]
      simp [ExtendedMantissa.shiftRightOne]

theorem shiftToTargetExponent_canonical (form : IsCanonical mantissa exponent)
    (positive : 0 < mantissa) (count : Nat) :
    shiftToTargetExponent Format.binary64 (mantissa * 2 ^ count) (exponent - count) .exact =
      (⟨mantissa, false, false⟩, exponent) := by
  have target : max (((mantissa * 2 ^ count).log2 : Int) + (exponent - count) - 52) (-1074) =
      exponent := by
    rw [log2_scaled positive, ← targetExponent_canonical form positive]
    push_cast
    congr 1
    have := targetExponent_canonical form positive
    omega
  have shifted : (exponent - (exponent - (count : Int))).toNat = count := by omega
  simp only [shiftToTargetExponent, targetExponent_eq, target, shiftToExponent, shifted,
    ExtendedMantissa.ofMantissaAndAccuracy, shift_exact]
  rw [Int.sub_add_cancel]

theorem roundWithAccuracy_canonical (sign : Sign) (form : IsCanonical mantissa exponent)
    (positive : 0 < mantissa) (count : Nat) :
    roundWithAccuracy Format.binary64 sign (mantissa * 2 ^ count) (exponent - count) .exact =
      .finite sign mantissa exponent positive := by
  have again := shiftToTargetExponent_canonical form positive 0
  simp only [Nat.pow_zero, Nat.mul_one, Nat.cast_zero, Int.sub_zero] at again
  have whole : (ExtendedMantissa.mk mantissa false false).roundedMantissa = mantissa := rfl
  simp only [roundWithAccuracy, shiftToTargetExponent_canonical form positive count, whole, again]
  exact dif_neg positive.ne'

/-- A number that has a canonical form is rounded to it. -/
theorem round_canonical (sign : Sign) (form : IsCanonical mantissa exponent)
    (positive : 0 < mantissa) (same : (number : ℚ) * 2 ^ place = mantissa * 2 ^ exponent) :
    UnpackedFloat.round Format.binary64 sign number place =
      .finite sign mantissa exponent positive := by
  have target := targetExponent_canonical form positive
  rcases Int.le_total place exponent with below | above
  · obtain ⟨count, rfl⟩ : ∃ count : Nat, place = exponent - count :=
      ⟨(exponent - place).toNat, by omega⟩
    have scaled : number = mantissa * 2 ^ count := by
      have steps : (2 : ℚ) ^ exponent = 2 ^ count * 2 ^ (exponent - count) := by
        rw [← zpow_natCast, ← zpow_add₀ two_ne_zero, add_sub_cancel]
      rw [steps, ← mul_assoc] at same
      exact_mod_cast mul_right_cancel₀ (zpow_ne_zero _ two_ne_zero) same
    subst scaled
    have kept : (exponent - count - Format.binary64.targetExponent
        (totalExponent (mantissa * 2 ^ count) (exponent - count))).toNat = 0 := by
      rw [targetExponent_eq, log2_scaled positive]
      omega
    simp only [UnpackedFloat.round, decreaseExponent, kept, Nat.shiftLeft_zero, Nat.cast_zero,
      Int.sub_zero]
    exact roundWithAccuracy_canonical sign form positive count
  · obtain ⟨count, rfl⟩ : ∃ count : Nat, place = exponent + count :=
      ⟨(place - exponent).toNat, by omega⟩
    have scaled : mantissa = number * 2 ^ count := by
      have steps : (2 : ℚ) ^ (exponent + count) = 2 ^ count * 2 ^ exponent := by
        rw [zpow_add₀ two_ne_zero, zpow_natCast, mul_comm]
      rw [steps, ← mul_assoc] at same
      exact_mod_cast (mul_right_cancel₀ (zpow_ne_zero _ two_ne_zero) same).symm
    have some : 0 < number := by
      by_contra none
      simp [Nat.eq_zero_of_not_pos none] at scaled
      omega
    have moved : (exponent + count - Format.binary64.targetExponent
        (totalExponent number (exponent + count))).toNat = count := by
      rw [targetExponent_eq]
      rw [scaled, log2_scaled some] at target
      omega
    have direct := roundWithAccuracy_canonical sign form positive 0
    simp only [Nat.pow_zero, Nat.mul_one, Nat.cast_zero, Int.sub_zero] at direct
    simp only [UnpackedFloat.round, decreaseExponent, moved, Nat.shiftLeft_eq, ← scaled,
      Int.add_sub_cancel]
    exact direct

/-- Fewer than `2 ^ 53` steps have a canonical form. -/
theorem exists_canonical (positive : 0 < count) (short : count < 2 ^ 53) (lower : -1074 ≤ step) :
    ∃ mantissa exponent, IsCanonical mantissa exponent ∧ 0 < mantissa ∧ exponent ≤ step ∧
      (mantissa : ℚ) * 2 ^ exponent = count * 2 ^ step := by
  have bits := log2_lt_of_lt short (by decide)
  let room := min (52 - count.log2) (step + 1074).toNat
  have length : (count * 2 ^ room).log2 = count.log2 + room := log2_scaled positive room
  have some : 0 < count * 2 ^ room := Nat.mul_pos positive (Nat.two_pow_pos room)
  refine ⟨count * 2 ^ room, step - room, ⟨?_, ?_, ?_⟩, some, ?_, ?_⟩
  · refine (Nat.log2_lt some.ne').mp ?_
    omega
  · omega
  · by_cases full : room = 52 - count.log2
    · refine .inl ((Nat.le_log2 some.ne').mp ?_)
      omega
    · exact .inr (by omega)
  · omega
  · push_cast
    rw [mul_assoc, ← zpow_natCast, ← zpow_add₀ two_ne_zero, add_sub_cancel]

theorem unpackSign_packComponents (spec : Format) (sign : Sign) (bits : BitVec spec.exponentBits)
    (digits : BitVec spec.mantissaBitsWithoutImplicit) :
    Sign.ofBitVec (unpackSign (packComponents spec sign bits digits)) = sign := by
  have same : unpackSign (packComponents spec sign bits digits) = sign.toBitVec := by
    refine BitVec.eq_of_getLsbD_eq fun index inside => ?_
    obtain rfl : index = 0 := by omega
    simp [unpackSign, packComponents, BitVec.getLsbD_append, BitVec.getElem_append]
  rw [same]
  cases sign <;> rfl

theorem unpack_long (sign : Sign) (positive : 0 < mantissa) (long : 2 ^ 52 ≤ mantissa)
    (short : mantissa < 2 ^ 53) (lower : -1074 ≤ exponent) (upper : exponent < 972) :
    UnpackedFloat.unpack Format.binary64 (packComponents Format.binary64 sign
      (BitVec.ofNat 11 (exponent + 1075).toNat) (BitVec.ofNat 52 mantissa)) =
        .finite sign mantissa exponent positive := by
  have bits : (BitVec.ofNat 11 (exponent + 1075).toNat).toNat = (exponent + 1075).toNat := by
    rw [BitVec.toNat_ofNat]
    omega
  have digits : (1#1 ++ BitVec.ofNat 52 mantissa).toNat = mantissa := by
    rw [toNat_leadingOne, BitVec.toNat_ofNat]
    omega
  have notFull : BitVec.ofNat 11 (exponent + 1075).toNat ≠ -1#11 := by
    intro same
    rw [same] at bits
    change 2047 = _ at bits
    omega
  have notLow : BitVec.ofNat 11 (exponent + 1075).toNat ≠ 0#11 := by
    intro same
    rw [same] at bits
    change 0 = _ at bits
    omega
  have place : ((BitVec.ofNat 11 (exponent + 1075).toNat).toNat : Int) - 1075 = exponent := by
    rw [bits]
    omega
  unfold UnpackedFloat.unpack
  simp only [unpackExponent_packComponents, unpackMantissa_packComponents,
    unpackSign_packComponents]
  rw [if_neg notFull, if_neg notLow]
  congr 1

theorem unpack_short (sign : Sign) (positive : 0 < mantissa) (short : mantissa < 2 ^ 52) :
    UnpackedFloat.unpack Format.binary64 (packComponents Format.binary64 sign 0#11
      (BitVec.ofNat 52 mantissa)) = .finite sign mantissa (-1074) positive := by
  have digits : (BitVec.ofNat 52 mantissa).toNat = mantissa := by
    rw [BitVec.toNat_ofNat]
    omega
  have some : BitVec.ofNat 52 mantissa ≠ 0#52 := by
    intro same
    rw [same] at digits
    change 0 = _ at digits
    omega
  unfold UnpackedFloat.unpack
  simp only [unpackExponent_packComponents, unpackMantissa_packComponents,
    unpackSign_packComponents]
  rw [if_neg (by decide), if_pos trivial, dif_neg some]
  congr 1

/-- Packing loses nothing of a canonical form. -/
theorem unpack_pack_canonical (sign : Sign) (form : IsCanonical mantissa exponent)
    (positive : 0 < mantissa) (upper : exponent < 972) :
    (Float.Model.pack (.finite sign mantissa exponent positive)).unpack =
      .finite sign mantissa exponent positive := by
  have lower := form.lower
  have biased : (exponent + Format.binary64.exponentBias +
      Format.binary64.mantissaBitsWithoutImplicit).toNat = (exponent + 1075).toNat := by
    change (exponent + 1023 + 52).toNat = _
    omega
  change UnpackedFloat.unpack Format.binary64
    (UnpackedFloat.pack Format.binary64 (.finite sign mantissa exponent positive)) = _
  have width : Format.binary64.mantissaBits = 53 := rfl
  simp only [UnpackedFloat.pack, biased, width]
  rw [if_neg (by change ¬ 2048 ≤ _; omega)]
  by_cases full : mantissa.log2 + 1 = 53
  · have long : 2 ^ 52 ≤ mantissa := (Nat.le_log2 positive.ne').mp (by omega)
    rw [if_pos full]
    exact unpack_long sign positive long form.short lower upper
  · have short : mantissa < 2 ^ 52 := by
      have bits := log2_lt_of_lt form.short (by decide)
      exact (Nat.log2_lt positive.ne').mp (by omega)
    obtain rfl : exponent = -1074 := form.full.resolve_left (by omega)
    rw [if_neg full]
    exact unpack_short sign positive short

end Rounding

/-- The double is finite, and the number is the one that it stands for. -/
structure StandsFor (number : Float) (value : ℚ) : Prop where
  finite : number.isFinite = true
  worth_eq : worth number = value

section Subtracting

variable {mantissa : Nat} {exponent step place : Int} {first second : Float} {many few : Int}

theorem pack_standsFor (sign : Sign) (form : IsCanonical mantissa exponent)
    (positive : 0 < mantissa) (upper : exponent < 972) :
    StandsFor (.ofModel (Float.Model.pack (.finite sign mantissa exponent positive)))
      (worthOf (.finite sign mantissa exponent positive)) := by
  have same := unpack_pack_canonical sign form positive upper
  refine ⟨?_, congrArg worthOf same⟩
  change (Float.Model.pack (.finite sign mantissa exponent positive)).unpack.isFinite = true
  rw [same]
  rfl

theorem pack_zero_standsFor (sign : Sign) :
    StandsFor (.ofModel (Float.Model.pack (.zero sign))) 0 := by
  cases sign <;> exact ⟨by decide +kernel, rfl⟩

theorem exists_apply {number : Int} (some : number ≠ 0) :
    ∃ (sign : Sign) (magnitude : Nat), 0 < magnitude ∧ number = sign.apply magnitude := by
  rcases Int.lt_or_gt_of_ne some with below | above
  · refine ⟨.negative, number.natAbs, Int.natAbs_pos.mpr some, ?_⟩
    change number = -(number.natAbs : Int)
    omega
  · refine ⟨.positive, number.natAbs, Int.natAbs_pos.mpr some, ?_⟩
    change number = (number.natAbs : Int)
    omega

theorem normalize_apply (sign : Sign) {magnitude : Nat} (positive : 0 < magnitude) (place : Int) :
    UnpackedFloat.normalize Format.binary64 (sign.apply magnitude) place .positive =
      UnpackedFloat.round Format.binary64 sign magnitude place := by
  cases sign with
  | negative =>
      have order : compare (-(magnitude : Int)) 0 = .lt := compare_lt_iff_lt.mpr (by omega)
      simp only [UnpackedFloat.normalize, Sign.apply, order, Int.neg_neg, Int.toNat_natCast]
  | positive =>
      have order : compare (magnitude : Int) 0 = .gt := compare_gt_iff_gt.mpr (by omega)
      simp only [UnpackedFloat.normalize, Sign.apply, order, Int.toNat_natCast]

/-- Fewer than `2 ^ 53` steps are what they are rounded to. -/
theorem normalize_standsFor {number count : Int} (lower : -1074 ≤ step) (upper : step < 972)
    (short : count.natAbs < 2 ^ 53) (same : (number : ℚ) * 2 ^ place = count * 2 ^ step) :
    StandsFor (.ofModel (Float.Model.pack
      (UnpackedFloat.normalize Format.binary64 number place .positive))) (count * 2 ^ step) := by
  have steps : (0 : ℚ) < 2 ^ step := zpow_pos two_pos step
  have places : (0 : ℚ) < 2 ^ place := zpow_pos two_pos place
  by_cases none : number = 0
  · rw [none, Int.cast_zero, zero_mul] at same
    rw [none, ← same]
    exact pack_zero_standsFor .positive
  · obtain ⟨sign, magnitude, positive, rfl⟩ := exists_apply none
    have turned : (magnitude : ℚ) * 2 ^ place = (sign.apply count : ℤ) * 2 ^ step := by
      cases sign with
      | positive => exact_mod_cast same
      | negative =>
          simp only [Sign.apply, Int.cast_neg, Int.cast_natCast, neg_mul] at same ⊢
          rw [← same, neg_neg]
    have above : 0 < sign.apply count := by
      have product := mul_pos (Nat.cast_pos.mpr positive : (0 : ℚ) < magnitude) places
      rw [turned] at product
      exact Int.cast_pos.mp ((mul_pos_iff_of_pos_right steps).mp product)
    obtain ⟨number, counted⟩ := Int.eq_ofNat_of_zero_le above.le
    have bounds : 0 < number ∧ number < 2 ^ 53 := by
      cases sign <;> simp only [Sign.apply] at counted above <;> omega
    obtain ⟨mantissa, exponent, form, some, small, worth⟩ :=
      exists_canonical bounds.1 bounds.2 lower
    have value : worthOf (.finite sign mantissa exponent some) = count * 2 ^ step := by
      cases sign with
      | positive =>
          rw [worthOf_positive, worth]
          exact_mod_cast congrArg (fun number : ℤ => (number : ℚ) * 2 ^ step) counted.symm
      | negative =>
          have opposite : count = -(number : ℤ) := by rw [← counted]; exact (Int.neg_neg count).symm
          rw [worthOf_negative, worth, opposite, Int.cast_neg, neg_mul, Int.cast_natCast]
    rw [counted, Int.cast_natCast, ← worth] at turned
    rw [normalize_apply sign positive, round_canonical sign form some turned, ← value]
    exact pack_standsFor sign form some (by omega)

theorem shiftLeft_worth (sign : Sign) (mantissa : Nat) (below : place ≤ exponent) :
    ((sign.apply (mantissa <<< (exponent - place).toNat : Nat) : ℤ) : ℚ) * 2 ^ place =
      (sign.apply mantissa : ℤ) * 2 ^ exponent := by
  obtain ⟨count, rfl⟩ : ∃ count : Nat, exponent = place + count :=
    ⟨(exponent - place).toNat, by omega⟩
  have moved : (place + count - place).toNat = count := by omega
  rw [moved, Nat.shiftLeft_eq, zpow_add₀ two_ne_zero, zpow_natCast]
  cases sign <;> simp only [Sign.apply] <;> push_cast <;> ring

/-- A difference of fewer than `2 ^ 53` steps is exact. -/
theorem sub_standsFor (lower : -1074 ≤ step) (upper : step < 972)
    (one : StandsFor first (many * 2 ^ step)) (other : StandsFor second (few * 2 ^ step))
    (short : (many - few).natAbs < 2 ^ 53) :
    StandsFor (first - second) ((many - few : ℤ) * 2 ^ step) := by
  have difference : ((many - few : ℤ) : ℚ) * 2 ^ step = worth first - worth second := by
    rw [one.worth_eq, other.worth_eq]
    push_cast
    ring
  have made : first - second = .ofModel (Float.Model.pack (UnpackedFloat.sub Format.binary64
      first.toModel.unpack second.toModel.unpack)) := rfl
  rcases finite_cases one.finite with
      ⟨sign, zero⟩ | ⟨sign, mantissa, exponent, some, found, form, bound⟩ <;>
    rcases finite_cases other.finite with
      ⟨secondSign, alsoZero⟩ | ⟨secondSign, digits, place, alsoSome, alsoFound, alsoForm, alsoBound⟩
  · have nothing : worth first - worth second = 0 := by simp [worth, zero, alsoZero]
    rw [difference, nothing, made, zero, alsoZero]
    cases sign <;> cases secondSign <;> exact pack_zero_standsFor _
  · have turned : worth first - worth second =
        worthOf (.finite (-secondSign) digits place alsoSome) := by
      simp only [worth, zero, alsoFound, worthOf_zero, zero_sub, worthOf_opposite]
    rw [difference, turned, made, zero, alsoFound]
    cases sign <;> exact pack_standsFor _ alsoForm alsoSome alsoBound
  · have kept : worth first - worth second = worthOf (.finite sign mantissa exponent some) := by
      simp only [worth, found, alsoZero, worthOf_zero, sub_zero]
    rw [difference, kept, made, found, alsoZero]
    exact pack_standsFor _ form some bound
  · rw [made, found, alsoFound]
    refine normalize_standsFor lower upper short ?_
    rw [difference, Int.cast_sub, sub_mul, shiftLeft_worth sign mantissa (min_le_left _ _),
      shiftLeft_worth secondSign digits (min_le_right _ _)]
    simp only [worth, found, alsoFound, worthOf]

/-- The double stands for a number of steps, and for fewer than `2 ^ 53`. -/
def IsSteps (step : Int) (number : Float) : Prop :=
  ∃ count : Nat, count < 2 ^ 53 ∧ StandsFor number ((count : ℤ) * 2 ^ step)

/-- Between times that are counted in steps, a span is within a limit as the numbers say. -/
theorem sub_le_iff {limit : Float} (lower : -1074 ≤ step) (upper : step < 972)
    (one : IsSteps step first) (other : IsSteps step second) (finite : limit.isFinite = true) :
    first - second ≤ limit ↔ worth first - worth second ≤ worth limit := by
  obtain ⟨many, fewSteps, one⟩ := one
  obtain ⟨few, alsoFewSteps, other⟩ := other
  have exact := sub_standsFor lower upper one other (by omega)
  rw [le_iff_worth_le exact.finite finite, exact.worth_eq, one.worth_eq, other.worth_eq,
    Int.cast_sub, sub_mul]

end Subtracting

end Rulebook.Decimal
