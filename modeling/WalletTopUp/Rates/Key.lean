import WalletTopUp.Wire.Money

/-!
# Rate keys

A stored rate belongs to the direction of a conversion and to the amount that was converted.
Amounts that are one number are one key, whatever their scale.
-/

namespace WalletTopUp

/-- The conversions whose results are stored. -/
inductive RateDirection where
  | appcToFiat
  | ethToFiat
deriving DecidableEq, Inhabited

/-- What a stored rate belongs to. -/
structure RateKey where
  direction : RateDirection
  /-- The amount that was converted. -/
  sourceAmount : Decimal
deriving DecidableEq, Inhabited

namespace RateDirection

/-- The wire name of a direction. -/
def name : RateDirection → String
  | appcToFiat => "appc_to_fiat"
  | ethToFiat => "eth_to_fiat"

/-- The direction of a wire name. -/
def ofName? : String → Option RateDirection
  | "appc_to_fiat" => some appcToFiat
  | "eth_to_fiat" => some ethToFiat
  | _ => none

/-- The word for a direction in a message. -/
def label : RateDirection → String
  | appcToFiat => "AppcToFiat"
  | ethToFiat => "EthToFiat"

end RateDirection

/-- Whether two keys are one. -/
def RateKey.sameKey (left right : RateKey) : Bool :=
  left.direction == right.direction && left.sourceAmount.sameNumber right.sourceAmount

end WalletTopUp
