import WalletTopUp.Decimal.Power

/-!
# Decimals

Fixed point numbers of a sign, a mantissa of 96 bits and a scale of at most 28 decimal places.
The scale belongs to the value: `2.5` and `2.50` are the same number and two decimals.  Order and
equality of the numbers are given by `compareTo` and `sameNumber`, which ignore the scale.
-/

namespace WalletTopUp

/-- A signed number `mantissa / 10 ^ scale`.  Zero carries no sign. -/
structure Decimal where
  /-- Whether the number is below zero. -/
  negative : Bool
  /-- All digits of the number, without the point. -/
  mantissa : Nat
  /-- How many of the digits stand behind the point. -/
  scale : Nat
  mantissa_lt : mantissa < twoPow 96
  scale_le : scale ≤ 28
  not_negative_zero : mantissa = 0 → negative = false
deriving DecidableEq

namespace Decimal

/-- The first mantissa that does not fit. -/
def mantissaLimit : Nat := twoPow 96

/-- The largest number of decimal places. -/
def maxScale : Nat := 28

/-- The decimal with these parts, zero losing its sign. -/
def ofParts (negative : Bool) (mantissa scale : Nat) (mantissa_lt : mantissa < twoPow 96)
    (scale_le : scale ≤ 28) : Decimal where
  negative := negative && mantissa != 0
  mantissa := mantissa
  scale := scale
  mantissa_lt := mantissa_lt
  scale_le := scale_le
  not_negative_zero := by
    intro zero
    simp [zero]

/-- The decimal with these parts, if mantissa and scale are within their bounds. -/
def ofParts? (negative : Bool) (mantissa scale : Nat) : Option Decimal :=
  if fits : mantissa < twoPow 96 ∧ scale ≤ 28 then
    some (ofParts negative mantissa scale fits.1 fits.2)
  else none

/-- Zero without decimal places. -/
def zero : Decimal := ofParts false 0 0 (by decide) (by decide)

/-- One without decimal places. -/
def one : Decimal := ofParts false 1 0 (by decide) (by decide)

instance : Inhabited Decimal := ⟨zero⟩

/-- The mantissa with the sign of the number. -/
def signedMantissa (value : Decimal) : Int :=
  if value.negative then -(value.mantissa : Int) else value.mantissa

/-- Whether the number is zero. -/
def isZero (value : Decimal) : Bool := value.mantissa == 0

/-- The mantissa that `value` has when `other`'s decimal places are counted as well. -/
def alignedWith (value other : Decimal) : Int :=
  value.signedMantissa * tenPow other.scale

/-- The order of the two numbers. -/
def compareTo (left right : Decimal) : Ordering :=
  compare (left.alignedWith right) (right.alignedWith left)

/-- Whether both decimals denote one number. -/
def sameNumber (left right : Decimal) : Bool :=
  left.compareTo right == .eq

/-- Whether the left number is below the right one. -/
def lt (left right : Decimal) : Bool :=
  left.compareTo right == .lt

/-- Whether the left number is at most the right one. -/
def le (left right : Decimal) : Bool :=
  left.compareTo right != .gt

/-- The larger number, the first one when both are equal. -/
def larger (left right : Decimal) : Decimal :=
  if left.lt right then right else left

/-- The smaller number, the first one when both are equal. -/
def smaller (left right : Decimal) : Decimal :=
  if right.lt left then right else left

/-- Whether the number is above zero. -/
def isPositive (value : Decimal) : Bool :=
  !value.negative && value.mantissa != 0

theorem ofParts_mantissa (negative : Bool) (mantissa scale : Nat) (h₁ : mantissa < twoPow 96)
    (h₂ : scale ≤ 28) : (ofParts negative mantissa scale h₁ h₂).mantissa = mantissa := rfl

theorem ofParts_scale (negative : Bool) (mantissa scale : Nat) (h₁ : mantissa < twoPow 96)
    (h₂ : scale ≤ 28) : (ofParts negative mantissa scale h₁ h₂).scale = scale := rfl

/-- Putting the parts of a decimal together again gives the decimal. -/
theorem ofParts_self (value : Decimal) :
    ofParts value.negative value.mantissa value.scale value.mantissa_lt value.scale_le = value := by
  obtain ⟨negative, mantissa, scale, lt, le, signless⟩ := value
  cases negative with
  | false => rfl
  | true =>
    have nonzero : mantissa ≠ 0 := fun zero => Bool.noConfusion (signless zero)
    simp [ofParts, nonzero]

end Decimal

end WalletTopUp
