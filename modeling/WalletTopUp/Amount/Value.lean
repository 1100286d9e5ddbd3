import WalletTopUp.Amount.Pattern
import WalletTopUp.Decimal.Parser
import WalletTopUp.Decimal.Printer

/-!
# Amount values

What one side of the amount field holds.  An amount that is not known (nothing typed, or nothing
derived yet) is kept apart from an amount that is known to be zero.
-/

namespace WalletTopUp

/-- The amount of one side of the entry. -/
inductive AmountValue where
  /-- Nothing typed, or nothing derived yet. -/
  | unknown
  /-- Known to be zero. -/
  | zero
  /-- A known amount. -/
  | value (amount : Decimal)
deriving DecidableEq, Inhabited

namespace AmountValue

/-- The amount of a decimal. -/
def ofDecimal (amount : Decimal) : AmountValue :=
  if amount.isZero then zero else value amount

/-- The amount that a typed text stands for, `none` for a text that is no amount. -/
def ofText? (text : String) : Option AmountValue :=
  if text.isEmpty then some unknown
  else if Amount.isNumeric text then (Decimal.ofText? text).map ofDecimal
  else none

/-- The amount, if it is known. -/
def amount? : AmountValue → Option Decimal
  | unknown => none
  | zero => some Decimal.zero
  | value amount => some amount

/-- The amount, if it is known and above zero. -/
def positive? : AmountValue → Option Decimal
  | value amount => if amount.isPositive then some amount else none
  | _ => none

/-- What the screen shows for an amount that is not known or zero. -/
def emptyDisplay : String := "--"

/-- What the screen shows. -/
def display : AmountValue → String
  | value amount => amount.toText
  | _ => emptyDisplay

/-- The text of the amount field that stands for this amount. -/
def fieldText : AmountValue → String
  | unknown => ""
  | zero => "0"
  | value amount => amount.toText

/-- Whether both are unknown, both zero, or both known amounts of one number. -/
def sameValue : AmountValue → AmountValue → Bool
  | unknown, unknown => true
  | zero, zero => true
  | value left, value right => left.sameNumber right
  | _, _ => false

end AmountValue

end WalletTopUp
