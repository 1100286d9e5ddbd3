import WalletTopUp.Decimal.Basic

/-!
# Decimals without trailing zeros
-/

namespace WalletTopUp

namespace Decimal

/-- Drop zeros behind the point as long as the mantissa ends in one. -/
def dropZeros (mantissa : Nat) : Nat → Nat × Nat
  | 0 => (mantissa, 0)
  | places + 1 =>
    if mantissa % 10 == 0 then dropZeros (mantissa / 10) places else (mantissa, places + 1)

theorem dropZeros_fst_le (mantissa scale : Nat) : (dropZeros mantissa scale).1 ≤ mantissa := by
  induction scale generalizing mantissa with
  | zero => exact Nat.le_refl _
  | succ places ih =>
    unfold dropZeros
    split
    · exact Nat.le_trans (ih _) (Nat.div_le_self _ _)
    · exact Nat.le_refl _

theorem dropZeros_snd_le (mantissa scale : Nat) : (dropZeros mantissa scale).2 ≤ scale := by
  induction scale generalizing mantissa with
  | zero => exact Nat.le_refl _
  | succ places ih =>
    unfold dropZeros
    split
    · exact Nat.le_trans (ih _) (Nat.le_succ _)
    · exact Nat.le_refl _

/-- The same number with as few decimal places as it needs. -/
def normalize (value : Decimal) : Decimal :=
  ofParts value.negative (dropZeros value.mantissa value.scale).1
    (dropZeros value.mantissa value.scale).2
    (Nat.lt_of_le_of_lt (dropZeros_fst_le _ _) value.mantissa_lt)
    (Nat.le_trans (dropZeros_snd_le _ _) value.scale_le)

end Decimal

end WalletTopUp
