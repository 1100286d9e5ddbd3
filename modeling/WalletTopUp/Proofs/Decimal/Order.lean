import Mathlib.Algebra.Order.Ring.Int
import WalletTopUp.Decimal.Basic

/-!
# The order of decimals

Decimals are compared as numbers, whatever their scales are.  This order is total and transitive,
and decimals of one number are those of which neither is above the other.  So an amount that is at
least the larger of two bounds is at least each of them, and an amount within the smaller of two
bounds is within each of them.
-/

namespace WalletTopUp

namespace Decimal

variable {first second third amount : Decimal}

/-- Decimals are compared by their mantissas at the greater of the two scales. -/
theorem le_iff : first.le second = true ↔ first.alignedWith second ≤ second.alignedWith first := by
  rw [le, bne_iff_ne, compareTo, ne_eq, compare_gt_iff_gt, not_lt]

/-- Strictly too they are compared at the greater scale. -/
theorem lt_iff : first.lt second = true ↔ first.alignedWith second < second.alignedWith first := by
  rw [lt, beq_iff_eq, compareTo, compare_lt_iff_lt]

theorem le_of_lt (below : first.lt second = true) : first.le second = true :=
  le_iff.mpr (Int.le_of_lt (lt_iff.mp below))

/-- The order is total. -/
theorem le_iff_not_lt : first.le second = true ↔ ¬ second.lt first = true := by
  rw [le_iff, lt_iff, not_lt]

theorem le_trans (left : first.le second = true) (right : second.le third = true) :
    first.le third = true := by
  rw [le_iff, alignedWith, alignedWith] at *
  have places : ∀ value : Decimal, (0 : Int) < tenPow value.scale := fun value =>
    Int.natCast_pos.mpr (tenPow_pos value.scale)
  -- Both sides are compared at the places of all three numbers.
  refine Int.le_of_mul_le_mul_right ?_ (places second)
  calc first.signedMantissa * tenPow third.scale * tenPow second.scale
      = first.signedMantissa * tenPow second.scale * tenPow third.scale := Int.mul_right_comm _ _ _
    _ ≤ second.signedMantissa * tenPow first.scale * tenPow third.scale :=
      Int.mul_le_mul_of_nonneg_right left (Int.le_of_lt (places third))
    _ = second.signedMantissa * tenPow third.scale * tenPow first.scale := Int.mul_right_comm _ _ _
    _ ≤ third.signedMantissa * tenPow second.scale * tenPow first.scale :=
      Int.mul_le_mul_of_nonneg_right right (Int.le_of_lt (places first))
    _ = third.signedMantissa * tenPow first.scale * tenPow second.scale := Int.mul_right_comm _ _ _

/-! ## Decimals of one number -/

/-- Decimals are the same number if their mantissas agree at the greater scale. -/
theorem sameNumber_iff :
    first.sameNumber second = true ↔ first.alignedWith second = second.alignedWith first := by
  rw [sameNumber, beq_iff_eq, compareTo, compare_eq_iff_eq]

/-- Two decimals denote one number if neither is above the other. -/
theorem sameNumber_iff_le :
    first.sameNumber second = true ↔ first.le second = true ∧ second.le first = true := by
  rw [sameNumber_iff, le_iff, le_iff, Int.le_antisymm_iff]

theorem sameNumber_refl (value : Decimal) : value.sameNumber value = true :=
  sameNumber_iff.mpr rfl

theorem sameNumber_symm (same : first.sameNumber second = true) : second.sameNumber first = true :=
  sameNumber_iff.mpr (sameNumber_iff.mp same).symm

theorem sameNumber_trans (left : first.sameNumber second = true)
    (right : second.sameNumber third = true) : first.sameNumber third = true := by
  rw [sameNumber_iff_le] at *
  exact ⟨le_trans left.1 right.1, le_trans right.2 left.2⟩

/-! ## Bounds -/

/-- What is at least the larger bound is at least both. -/
theorem le_of_larger_le (above : (first.larger second).le amount = true) :
    first.le amount = true ∧ second.le amount = true := by
  unfold larger at above
  split at above
  · next below => exact ⟨le_trans (le_of_lt below) above, above⟩
  · next notBelow => exact ⟨above, le_trans (le_iff_not_lt.mpr notBelow) above⟩

/-- What is at least both bounds is at least the larger one. -/
theorem larger_le (aboveFirst : first.le amount = true) (aboveSecond : second.le amount = true) :
    (first.larger second).le amount = true := by
  unfold larger
  split
  · exact aboveSecond
  · exact aboveFirst

/-- What is at most the smaller bound is at most both. -/
theorem le_of_le_smaller (below : amount.le (first.smaller second) = true) :
    amount.le first = true ∧ amount.le second = true := by
  unfold smaller at below
  split at below
  · next smaller => exact ⟨le_trans below (le_of_lt smaller), below⟩
  · next notSmaller => exact ⟨below, le_trans below (le_iff_not_lt.mpr notSmaller)⟩

/-- What is at most both bounds is at most the smaller one. -/
theorem le_smaller (belowFirst : amount.le first = true) (belowSecond : amount.le second = true) :
    amount.le (first.smaller second) = true := by
  unfold smaller
  split
  · exact belowSecond
  · exact belowFirst

end Decimal

end WalletTopUp
