import Mathlib.Algebra.Order.Field.Basic
import Mathlib.Data.Rat.Cast.Order
import Mathlib.Tactic.Positivity
import Mathlib.Tactic.Ring
import WalletTopUp.Proofs.Decimal.Normal

/-!
# The number of a decimal

A decimal denotes a rational number (`Decimal.toRat`).  Decimals are compared as their numbers are
(`Decimal.le_iff_toRat`), and a decimal is known by its number and its scale
(`Decimal.eq_of_toRat_eq`).
-/

namespace WalletTopUp

/-- Powers of ten are the same among the rationals. -/
theorem cast_tenPow (places : Nat) : (tenPow places : ℚ) = 10 ^ places := by
  rw [tenPow]
  exact_mod_cast rfl

namespace Decimal

variable {first second value : Decimal}

/-- The number that a decimal denotes. -/
def toRat (value : Decimal) : ℚ := value.signedMantissa / 10 ^ value.scale

/-- The number of a decimal has a positive denominator. -/
theorem tenPow_scale_pos (value : Decimal) : (0 : ℚ) < 10 ^ value.scale := by positivity

/-! ## Sign and size -/

/-- The sign of a decimal goes with its mantissa, but for zero, which has none. -/
theorem signedMantissa_ofParts (negative : Bool) (mantissa scale : Nat)
    (fits : mantissa < twoPow 96) (places : scale ≤ 28) :
    (ofParts negative mantissa scale fits places).signedMantissa
      = if negative then -(mantissa : Int) else mantissa := by
  by_cases zero : mantissa = 0
  · subst zero
    cases negative <;> rfl
  · have shown : (mantissa != 0) = true := bne_iff_ne.mpr zero
    simp only [signedMantissa, ofParts, shown, Bool.and_true]

/-- A decimal made of parts denotes its mantissa shifted by its scale, with the sign. -/
theorem toRat_ofParts (negative : Bool) {mantissa scale : Nat} (fits : mantissa < twoPow 96)
    (places : scale ≤ 28) :
    (ofParts negative mantissa scale fits places).toRat
      = (if negative then -(mantissa : ℚ) else mantissa) / 10 ^ scale := by
  rw [toRat, signedMantissa_ofParts, ofParts_scale]
  split <;> push_cast <;> rfl

/-- Without its sign the mantissa is what is stored. -/
theorem natAbs_signedMantissa (value : Decimal) : value.signedMantissa.natAbs = value.mantissa := by
  unfold signedMantissa
  split <;> omega

/-- The size of a decimal is its mantissa over a power of ten. -/
theorem abs_toRat (value : Decimal) : |value.toRat| = value.mantissa / 10 ^ value.scale := by
  have size : |(value.signedMantissa : ℚ)| = value.mantissa := by
    rw [← natAbs_signedMantissa value, Nat.cast_natAbs, Int.cast_abs]
  rw [toRat, abs_div, size, abs_of_pos (tenPow_scale_pos value)]

/-- Without its point the number of a decimal is its mantissa. -/
theorem abs_toRat_mul (value : Decimal) : |value.toRat| * 10 ^ value.scale = value.mantissa := by
  rw [abs_toRat, div_mul_cancel₀ _ (ne_of_gt (tenPow_scale_pos value))]

/-- The signed mantissa determines sign and digits, for zero has no sign. -/
theorem eq_of_signedMantissa_eq (same : first.signedMantissa = second.signedMantissa)
    (places : first.scale = second.scale) : first = second := by
  have digits : first.mantissa = second.mantissa := by
    rw [← natAbs_signedMantissa first, same, natAbs_signedMantissa]
  have signs : first.negative = second.negative := by
    by_cases zero : first.mantissa = 0
    · rw [first.not_negative_zero zero, second.not_negative_zero (digits ▸ zero)]
    · unfold signedMantissa at same
      cases left : first.negative <;> cases right : second.negative <;>
        simp only [left, right, Bool.false_eq_true, if_true, if_false] at same <;>
        first | rfl | omega
  cases first
  cases second
  cases digits
  cases signs
  cases places
  rfl

/-- **A decimal is known by its number and its scale.** -/
theorem eq_of_toRat_eq (same : first.toRat = second.toRat) (places : first.scale = second.scale) :
    first = second := by
  apply eq_of_signedMantissa_eq _ places
  rw [toRat, toRat, places, div_left_inj' (ne_of_gt (tenPow_scale_pos second))] at same
  exact_mod_cast same

/-! ## Order -/

/-- Aligning with another decimal multiplies by a power of ten. -/
theorem alignedWith_eq (value other : Decimal) :
    (value.alignedWith other : ℚ) = value.signedMantissa * 10 ^ other.scale := by
  rw [alignedWith]
  push_cast
  rw [cast_tenPow]

/-- **The order of decimals is the order of their numbers.** -/
theorem le_iff_toRat : first.le second = true ↔ first.toRat ≤ second.toRat := by
  rw [le_iff, toRat, toRat, div_le_div_iff₀ (tenPow_scale_pos first) (tenPow_scale_pos second),
    ← alignedWith_eq, ← alignedWith_eq, Int.cast_le]

/-- Decimals are compared as numbers, whatever their scales are. -/
theorem sameNumber_iff_toRat : first.sameNumber second = true ↔ first.toRat = second.toRat := by
  rw [sameNumber_iff_le, le_iff_toRat, le_iff_toRat, le_antisymm_iff]

/-- A decimal is zero exactly if its number is. -/
theorem isZero_iff_toRat : value.isZero = true ↔ value.toRat = 0 := by
  have digits : value.mantissa = 0 ↔ value.signedMantissa = 0 := by
    rw [← natAbs_signedMantissa value, Int.natAbs_eq_zero]
  rw [isZero, beq_iff_eq, digits, toRat, div_eq_zero_iff, Int.cast_eq_zero,
    or_iff_left (ne_of_gt (tenPow_scale_pos value))]

/-- A decimal is positive exactly if its number is. -/
theorem isPositive_iff_toRat : value.isPositive = true ↔ 0 < value.toRat := by
  rw [toRat, div_pos_iff_of_pos_right (tenPow_scale_pos value), Int.cast_pos, isPositive,
    Bool.and_eq_true, Bool.not_eq_true', bne_iff_ne, signedMantissa]
  cases value.negative with
  | false => simp [Nat.pos_iff_ne_zero]
  | true => simp

/-- Dropping zeros at the end keeps the number. -/
theorem toRat_normalize (value : Decimal) : value.normalize.toRat = value.toRat :=
  sameNumber_iff_toRat.mp (sameNumber_normalize value)

end Decimal

end WalletTopUp
