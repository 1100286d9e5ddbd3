import WalletTopUp.Json.Record

/-!
# Bonus forecasts and partner addresses on the wire
-/

namespace WalletTopUp

open Json

/-- What the bonus programme says about a wallet. -/
inductive BonusStatus where
  | active
  | inactive
  | noNetwork
  | unknownError
deriving DecidableEq, Inhabited

/-- The bonus that a top-up is going to earn. -/
structure BonusForecast where
  status : BonusStatus
  amount : Decimal
  currency : String
deriving DecidableEq, Inhabited

namespace BonusStatus

/-- The wire name of a status. -/
def name : BonusStatus → String
  | active => "ACTIVE"
  | inactive => "INACTIVE"
  | noNetwork => "NO_NETWORK"
  | unknownError => "UNKNOWN_ERROR"

/-- The status of a wire name. -/
def ofName? : String → Option BonusStatus
  | "ACTIVE" => some active
  | "INACTIVE" => some inactive
  | "NO_NETWORK" => some noNetwork
  | "UNKNOWN_ERROR" => some unknownError
  | _ => none

end BonusStatus

namespace BonusForecast

/-- Whether the screen shows the bonus: an active programme and an amount above zero. -/
def isVisible (bonus : BonusForecast) : Bool :=
  bonus.status == .active && bonus.amount.isPositive

/-- Whether two forecasts agree, their amounts being compared as numbers. -/
def sameForecast (left right : BonusForecast) : Bool :=
  left.status == right.status && left.amount.sameNumber right.amount
    && left.currency == right.currency

end BonusForecast

instance : Wire BonusStatus where
  encode status := .string status.name
  decode? tree := tree.alternative?.bind BonusStatus.ofName?

instance : Wire BonusForecast where
  encode bonus := .object [
    ("status", encode bonus.status),
    ("amount", decimal bonus.amount),
    ("currency", .string bonus.currency)]
  decode? tree := do
    let record ← Record.ofTree? [⟨"status", false⟩, ⟨"amount", false⟩, ⟨"currency", true⟩] tree
    let status ← record.required "status" decode?
    let amount ← record.required "amount" Tree.decimal?
    let currency ← record.orElse "currency" Tree.text? ""
    return { status, amount, currency }

/-- The partners that a payment is routed to. -/
inductive PartnerRole where
  | store
  | oem
deriving DecidableEq, Inhabited

/-- The wallet address of a partner. -/
structure PartnerAddress where
  address : String
deriving DecidableEq, Inhabited

namespace PartnerRole

/-- The name of a role. -/
def name : PartnerRole → String
  | store => "store"
  | oem => "oem"

/-- The role of a name. -/
def ofName? : String → Option PartnerRole
  | "store" => some store
  | "oem" => some oem
  | _ => none

end PartnerRole

instance : Wire PartnerRole where
  encode role := .string role.name
  decode? tree := tree.alternative?.bind PartnerRole.ofName?

instance : Wire PartnerAddress where
  encode partner := .object [("address", .string partner.address)]
  decode? tree := do
    let record ← Record.ofTree? [⟨"address", false⟩] tree
    let address ← record.required "address" Tree.text?
    return { address }

end WalletTopUp
