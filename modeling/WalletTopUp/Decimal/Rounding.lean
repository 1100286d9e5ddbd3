import WalletTopUp.Decimal.Basic

/-!
# Rounding decimals down

`floorToScale` rounds toward negative infinity to a number of decimal places and then shows exactly
that many places, or as many as the mantissa has room for.
-/

namespace WalletTopUp

namespace Decimal

/-- The largest decimal with at most `scale` places that is not above `value`. -/
def roundDown (value : Decimal) (scale : Nat) : Decimal :=
  if fewer : scale < value.scale then
    let unit := tenPow (value.scale - scale)
    let inexact := value.negative && value.mantissa % unit != 0
    let magnitude := value.mantissa / unit + if inexact then 1 else 0
    ofParts value.negative magnitude scale
      (by
        have bound := value.mantissa_lt
        have room : 1 < twoPow 96 := by decide
        have quotient : value.mantissa / unit ≤ value.mantissa / 10 :=
          Nat.div_le_div_left (ten_le_tenPow (by omega)) (by omega)
        show value.mantissa / unit + (if inexact then 1 else 0) < twoPow 96
        split <;> omega)
      (by have := value.scale_le; omega)
  else value

/-- Append zeros behind the point until there are `scale` places or the mantissa is full.  The
first argument counts the zeros still wanted. -/
def padZeros : Nat → Decimal → Decimal
  | 0, value => value
  | wanted + 1, value =>
    match ofParts? value.negative (value.mantissa * 10) (value.scale + 1) with
    | none => value
    | some longer => padZeros wanted longer

/-- `value` with `scale` decimal places, if it does not have more already. -/
def padToScale (value : Decimal) (scale : Nat) : Decimal :=
  padZeros (scale - value.scale) value

/-- `value` rounded toward negative infinity to `scale` places, a scale above the largest possible
one counting as that one. -/
def floorToScale (value : Decimal) (scale : Nat) : Decimal :=
  let places := min scale maxScale
  (value.roundDown places).padToScale places

end Decimal

end WalletTopUp
