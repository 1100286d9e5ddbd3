import WalletTopUp.Amount.Entry
import WalletTopUp.Wire.Bonus
import WalletTopUp.Wire.Money
import WalletTopUp.Wire.Payment

/-!
# The state of a top-up screen

A snapshot of everything that the screen shows, and the actions that lead from one snapshot to the
next.
-/

namespace WalletTopUp

/-- How an amount compares with the limits. -/
inductive Bounds where
  | within
  | tooLow
  | tooHigh
deriving DecidableEq, Inhabited

/-- Everything that a top-up screen shows. -/
structure ScreenState where
  entry : AmountEntry := {}
  /-- The payment methods on offer. -/
  methods : List PaymentMethod := []
  selectedMethod : Option PaymentMethod := none
  limits : Option TopUpLimits := none
  /-- How the amount compares with the limits, once that has been checked. -/
  bounds : Option Bounds := none
  bonus : Option BonusForecast := none
  /-- Whether the derived side belongs to the amount of the selected side. -/
  settled : Bool := false
deriving DecidableEq, Inhabited

/-- What can happen to the state of a screen. -/
inductive ScreenAction where
  | setupLoaded (methods : List PaymentMethod) (currency : LocalCurrency)
  /-- The user typed this text on the selected side. -/
  | amountEdited (text : String)
  /-- The side that is not selected has been derived. -/
  | conversionSettled (derived : AmountValue)
  | limitsLoaded (limits : TopUpLimits)
  | boundsValidated (bounds : Bounds)
  | bonusUpdated (bonus : Option BonusForecast)
  | methodSelected (method : PaymentMethod)
  | currencySwitched
deriving DecidableEq, Inhabited

namespace ScreenState

/-- The selected method, unless `methods` does not offer it any more. -/
def stillOffered (methods : List PaymentMethod) : Option PaymentMethod → Option PaymentMethod
  | none => none
  | some selected => if methods.any (fun method => method.id == selected.id) then some selected
    else none

/-- The state that follows an action.  A text that is no amount changes nothing. -/
def next (state : ScreenState) : ScreenAction → ScreenState
  | .setupLoaded methods currency =>
    { state with
      entry := { state.entry with currency }
      methods
      selectedMethod := stillOffered methods state.selectedMethod }
  | .amountEdited text =>
    match AmountValue.ofText? text with
    | none => state
    | some value =>
      let side := state.entry.selected
      { state with
        entry :=
          { (state.entry.withSide side value).withSide side.other .unknown with rawText := text }
        bounds := none
        bonus := none
        settled := false }
  | .conversionSettled derived =>
    { state with
      entry := state.entry.withSide state.entry.selected.other derived
      settled := true }
  | .limitsLoaded limits => { state with limits := some limits }
  | .boundsValidated bounds => { state with bounds := some bounds }
  | .bonusUpdated bonus => { state with bonus }
  | .methodSelected method => { state with selectedMethod := some method }
  | .currencySwitched => { state with entry := state.entry.switched }

/-- Whether two values that may be absent are both absent or related. -/
def bothOrNeither (same : α → α → Bool) : Option α → Option α → Bool
  | none, none => true
  | some left, some right => same left right
  | _, _ => false

/-- Whether two lists are related item by item. -/
def itemwise (same : α → α → Bool) : List α → List α → Bool
  | [], [] => true
  | left :: lefts, right :: rights => same left right && itemwise same lefts rights
  | _, _ => false

/-- Whether two states show the same, decimals being compared as numbers. -/
def sameState (left right : ScreenState) : Bool :=
  left.entry.sameEntry right.entry
    && itemwise PaymentMethod.sameMethod left.methods right.methods
    && bothOrNeither PaymentMethod.sameMethod left.selectedMethod right.selectedMethod
    && bothOrNeither TopUpLimits.sameLimits left.limits right.limits
    && left.bounds == right.bounds
    && bothOrNeither BonusForecast.sameForecast left.bonus right.bonus
    && left.settled == right.settled

end ScreenState

end WalletTopUp
