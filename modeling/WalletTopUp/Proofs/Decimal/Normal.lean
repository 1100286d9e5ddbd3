import WalletTopUp.Decimal.Normal
import WalletTopUp.Proofs.Decimal.Order

/-!
# The number of a decimal without trailing zeros

Dropping trailing zeros changes the scale and leaves the number as it is.
-/

namespace WalletTopUp

namespace Decimal

theorem dropZeros_mul_tenPow (mantissa scale : Nat) :
    (dropZeros mantissa scale).1 * tenPow scale
      = mantissa * tenPow (dropZeros mantissa scale).2 := by
  induction scale generalizing mantissa with
  | zero => rfl
  | succ places ih =>
      unfold dropZeros
      split
      · next tens =>
          have whole : mantissa / 10 * 10 = mantissa :=
            Nat.div_mul_cancel (Nat.dvd_of_mod_eq_zero (beq_iff_eq.mp tens))
          rw [tenPow_succ, ← Nat.mul_assoc, ih, Nat.mul_right_comm, whole]
      · rfl

theorem mantissa_normalize (value : Decimal) :
    value.normalize.mantissa * tenPow value.scale
      = value.mantissa * tenPow value.normalize.scale :=
  dropZeros_mul_tenPow value.mantissa value.scale

/-- Only zero has no digits left, and zero has no sign. -/
theorem negative_normalize (value : Decimal) : value.normalize.negative = value.negative := by
  by_cases zero : value.normalize.mantissa = 0
  · have none : value.mantissa * tenPow value.normalize.scale = 0 := by
      rw [← mantissa_normalize, zero, Nat.zero_mul]
    rw [value.normalize.not_negative_zero zero, value.not_negative_zero
      ((Nat.mul_eq_zero.mp none).resolve_right (Nat.ne_of_gt (tenPow_pos _)))]
  · have nonzero : (value.normalize.mantissa != 0) = true := bne_iff_ne.mpr zero
    exact (congrArg (value.negative && ·) nonzero).trans (Bool.and_true _)

/-- **Dropping trailing zeros keeps the number.** -/
theorem sameNumber_normalize (value : Decimal) : value.normalize.sameNumber value = true := by
  have mantissa : (value.normalize.mantissa : Int) * tenPow value.scale
      = value.mantissa * tenPow value.normalize.scale := by
    exact_mod_cast mantissa_normalize value
  rw [sameNumber_iff, alignedWith, alignedWith, signedMantissa, signedMantissa, negative_normalize]
  split
  · rw [Int.neg_mul, Int.neg_mul, mantissa]
  · exact mantissa

end Decimal

end WalletTopUp
