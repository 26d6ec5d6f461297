import Mathlib.Order.Compare
import Rulebook.Decimal.Reading

namespace Rulebook.Decimal

open Float.Model

theorem compare_self {unpacked : UnpackedFloat} (number : unpacked.isNaN = false) :
    unpacked.compare unpacked = some .eq := by
  cases unpacked with
  | notANumber => cases number
  | infinity sign => cases sign <;> rfl
  | zero sign => rfl
  | finite sign mantissa exponent positive =>
      have same : (compare exponent exponent).then (compare mantissa mantissa) = .eq := by simp
      cases sign with
      | negative => exact congrArg (fun order => some (Ordering.swap order)) same
      | positive => exact congrArg some same

theorem compare_swap (first second : UnpackedFloat) :
    second.compare first = (first.compare second).map Ordering.swap := by
  match first, second with
  | .notANumber, second => cases second <;> rfl
  | .infinity sign, .notANumber | .zero sign, .notANumber | .finite sign .., .notANumber =>
      cases sign <;> rfl
  | .infinity sign, .infinity other | .infinity sign, .zero other | .infinity sign, .finite other ..
  | .zero sign, .infinity other | .zero sign, .zero other | .zero sign, .finite other ..
  | .finite sign .., .infinity other | .finite sign .., .zero other =>
      cases sign <;> cases other <;> rfl
  | .finite sign mantissa exponent _, .finite other digits place _ =>
      have swapped : (compare place exponent).then (compare digits mantissa) =
          ((compare exponent place).then (compare mantissa digits)).swap := by
        have exponents : compare place exponent = (compare exponent place).swap :=
          Std.OrientedCmp.eq_swap
        have mantissas : compare digits mantissa = (compare mantissa digits).swap :=
          Std.OrientedCmp.eq_swap
        rw [exponents, mantissas, Ordering.swap_then]
      cases sign with
      | negative =>
          cases other with
          | negative => exact congrArg (fun order => some (Ordering.swap order)) swapped
          | positive => rfl
      | positive =>
          cases other with
          | negative => rfl
          | positive => exact congrArg some swapped

theorem beq_iff_compare (first second : Float) :
    (first == second) = true ↔
      first.toModel.unpack.compare second.toModel.unpack = some .eq := by
  change (first.toModel.unpack.compare second.toModel.unpack == some .eq) = true ↔ _
  exact beq_iff_eq

theorem beq_self_of_number {time : Float} (number : time.isNaN = false) :
    (time == time) = true := by
  rw [beq_iff_compare]
  exact compare_self number

theorem beq_symm {first second : Float} (same : (first == second) = true) :
    (second == first) = true := by
  rw [beq_iff_compare] at same ⊢
  rw [compare_swap, same]
  rfl

end Rulebook.Decimal
