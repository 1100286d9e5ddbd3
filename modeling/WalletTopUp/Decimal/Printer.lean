import WalletTopUp.Decimal.Basic

/-!
# Decimal text

A decimal is written with a minus sign if it is negative, at least one digit before the point, and
exactly as many digits behind the point as its scale says; without decimal places there is no point.
-/

namespace WalletTopUp

namespace Decimal

/-- The digits of `mantissa`, padded on the left so that more than `scale` of them are there. -/
def paddedDigits (mantissa scale : Nat) : List Char :=
  let digits := Nat.toDigits 10 mantissa
  List.replicate (scale + 1 - digits.length) '0' ++ digits

/-- The unsigned text of `mantissa / 10 ^ scale`. -/
def magnitudeText (mantissa scale : Nat) : List Char :=
  let digits := paddedDigits mantissa scale
  let whole := digits.take (digits.length - scale)
  match scale with
  | 0 => whole
  | _ + 1 => whole ++ '.' :: digits.drop (digits.length - scale)

/-- The characters of a decimal's text. -/
def toChars (value : Decimal) : List Char :=
  if value.negative then '-' :: magnitudeText value.mantissa value.scale
  else magnitudeText value.mantissa value.scale

/-- The text of a decimal, which keeps its scale. -/
def toText (value : Decimal) : String := String.ofList value.toChars

instance : ToString Decimal := ⟨toText⟩

end Decimal

end WalletTopUp
