import WalletTopUp.Screen.State

/-!
# The payment gate

Which payment methods are offered, and when an amount may be submitted: it has to be converted, to
lie within the limits, to be positive on both sides, and to have a method to pay with.
-/

namespace WalletTopUp

/-- The methods that a top-up may be paid with. -/
structure Gate where
  /-- The ids of the supported methods. -/
  supported : List String := ["paypal", "credit_card"]
deriving DecidableEq, Inhabited

/-- The limits of one submission in the local currency. -/
structure EffectiveLimits where
  min : Decimal
  max : Decimal
  currency : String
deriving DecidableEq, Inhabited

/-- Compare an amount with its bounds, which are themselves allowed.  An amount that violates both
of two crossed bounds is too high. -/
def Bounds.of (amount min max : Decimal) : Bounds :=
  if max.lt amount then .tooHigh
  else if amount.lt min then .tooLow
  else .within

namespace EffectiveLimits

/-- How an amount compares with the limits. -/
def check (limits : EffectiveLimits) (amount : Decimal) : Bounds :=
  Bounds.of amount limits.min limits.max

/-- The bound that an amount violates, with its currency. -/
def warning (limits : EffectiveLimits) : Bounds → Option String
  | .within => none
  | .tooLow => some (limits.min.toText ++ " " ++ limits.currency)
  | .tooHigh => some (limits.max.toText ++ " " ++ limits.currency)

end EffectiveLimits

namespace Gate

/-- Whether the method of this id may be used. -/
def isSupported (gate : Gate) (id : String) : Bool := gate.supported.contains id

/-- The supported ones of some methods, in their order. -/
def filterSupported (gate : Gate) (methods : List PaymentMethod) : List PaymentMethod :=
  methods.filter fun method => gate.isSupported method.id

/-- The limits of a top-up, narrowed by the bounds of the method it is paid with. -/
def effectiveLimits (limits : TopUpLimits) (method : Option PaymentMethod) : EffectiveLimits where
  min := ((method.bind PaymentMethod.minAmount).map limits.min.amount.larger).getD
    limits.min.amount
  max := ((method.bind PaymentMethod.maxAmount).map limits.max.amount.smaller).getD
    limits.max.amount
  currency := limits.min.currency

/-- How the fiat amount compares with the limits, once both are known. -/
def check (state : ScreenState) : Option (Bounds × EffectiveLimits) :=
  match state.entry.fiat.amount?, state.limits with
  | some amount, some limits =>
    let effective := effectiveLimits limits state.selectedMethod
    some (effective.check amount, effective)
  | _, _ => none

/-- Whether both sides are positive and there is a method to pay with. -/
def isSubmittable (entry : AmountEntry) (method : Option PaymentMethod) : Bool :=
  entry.fiat.positive?.isSome && entry.token.positive?.isSome && method.isSome

/-- Whether a state may be submitted. -/
def canSubmit (state : ScreenState) : Bool :=
  state.settled && state.bounds == some .within && isSubmittable state.entry state.selectedMethod

end Gate

end WalletTopUp
