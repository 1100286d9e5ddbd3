import WalletTopUp.Service.Request

/-!
# Names of services

Who answers which request.  Stored rates are kept by the program itself, so nobody is asked for
them.
-/

namespace WalletTopUp

/-- A service. -/
inductive ServiceName where
  | broker
  | limits
  | bonus
  | wallet
  | store
  | oem
  | methods
  | info
  | payment
  | transaction
  | redirect
  | disable
deriving DecidableEq, Inhabited

/-- The word for a service. -/
def ServiceName.text : ServiceName → String
  | broker => "broker"
  | limits => "limits"
  | bonus => "bonus"
  | wallet => "wallet"
  | store => "store"
  | oem => "oem"
  | methods => "methods"
  | info => "info"
  | payment => "payment"
  | transaction => "transaction"
  | redirect => "redirect"
  | disable => "disable"

/-- The service that answers a request. -/
def Request.service? : Request → Option ServiceName
  | quote _ _ _ => some .broker
  | limits _ => some .limits
  | forecast _ _ => some .bonus
  | wallet => some .wallet
  | partner .store _ => some .store
  | partner .oem _ => some .oem
  | methods => some .methods
  | info _ _ _ _ => some .info
  | pay _ => some .payment
  | redirect _ _ _ _ => some .redirect
  | transaction _ _ => some .transaction
  | disable _ => some .disable
  | saveRate _ _ => none
  | loadRate _ => none

/-! ## Simple servers -/

namespace Server

/-- Every service fails with this error; nothing is stored. -/
def failing (error : ServiceError) : Server := fun request =>
  match request with
  | .quote _ _ _ => .error error
  | .limits _ => .error error
  | .forecast _ _ => .error error
  | .wallet => .error error
  | .partner _ _ => .error error
  | .methods => .error error
  | .info _ _ _ _ => .error error
  | .pay _ => .error error
  | .redirect _ _ _ _ => .error error
  | .transaction _ _ => .error error
  | .disable _ => .error error
  | .saveRate _ _ => .ok ()
  | .loadRate _ => .ok none

/-- The service of this name cannot be reached. -/
def absent (service : ServiceName) : Server := failing (.unavailable service.text)

/-- The wallet of this address pays; without an address there is none. -/
def ofWallet (address : Option String) : Server := fun request =>
  match request with
  | .wallet =>
    match address with
    | some address => Except.ok address
    | none => Except.error .noWallet
  | other => failing .noWallet other

/-- What comes of storing a result. -/
def ofSaved (result : Except CacheError Unit) : Server := fun request =>
  match request with
  | .saveRate _ _ => result
  | other => failing .noWallet other

/-- What is stored. -/
def ofStored (result : Except CacheError (Option Money)) : Server := fun request =>
  match request with
  | .loadRate _ => result
  | other => failing .noWallet other

end Server

end WalletTopUp
