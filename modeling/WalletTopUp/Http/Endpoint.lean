import WalletTopUp.Http.Message
import WalletTopUp.Rates.Conversion
import WalletTopUp.Service.Request

/-!
# Endpoints

Where each request goes and how it is worded.  Every argument that becomes a part of a path is
encoded, so it cannot be taken for more than one part; only the two names made of points still have
a meaning of their own.
-/

namespace WalletTopUp

namespace Http

/-- A place of a web service and what is said to it. -/
structure Endpoint where
  method : Method := .get
  /-- The path, which begins with a slash. -/
  path : List Char
  query : List (String × String) := []
  body : Option Json.Value := none
deriving Inhabited, BEq

namespace Endpoint

/-- The message for an endpoint of the service at an address. -/
def message (endpoint : Endpoint) (base : Url) : Except ClientError Message :=
  match base.resolve? endpoint.path with
  | none => .error (.url "relative URL with a cannot-be-a-base base")
  | some place =>
    let url := place.withPairs endpoint.query
    if url.isWeb then .ok ⟨endpoint.method, url, endpoint.body⟩
    else .error (.http ("builder error for url (" ++ url.toText ++ ")"))

/-! ## The broker -/

/-- What is `value` of `currency` in `target`, or in the local currency? -/
def quote (currency value : String) (target : Option String) : Endpoint where
  path := "/broker/8.20180518/exchanges/".toList ++ Text.encodePart currency
    ++ "/convert/".toList ++ Text.encodePart value
  query := target.toList.map fun target => ("to", target)

/-! ## Partners -/

/-- Where does a partner of the package receive its share? -/
def partner (role : PartnerRole) (package : String) : Endpoint where
  path := "/roles/8.20180518/partners/".toList ++ role.name.toList
  query := [("package", package)]

/-! ## Payments -/

/-- The place of the payment gateway. -/
def gateway : List Char := "/broker/8.20200815/gateways/adyen_v2".toList

/-- The place of a transaction. -/
def transactionPath (uid : String) : List Char :=
  gateway ++ "/transactions/".toList ++ Text.encodePart uid

/-- Which payment methods are there? -/
def methods : Endpoint where
  path := "/broker/8.20200815/methods".toList
  query := [("currency.type", "fiat"), ("transaction.type", "TOPUP")]

/-- How would a payment look? -/
def info (method value currency wallet : String) : Endpoint where
  path := gateway ++ "/payment-methods".toList
  query := [("price.value", value), ("price.currency", currency), ("method", method),
    ("wallet.address", wallet)]

/-- Pay. -/
def pay (payment : PaymentRequest) : Endpoint where
  method := .post
  path := gateway ++ "/transactions".toList
  body := some (Json.encode payment)

/-- How far has a transaction got? -/
def transaction (uid wallet : String) : Endpoint where
  path := transactionPath uid
  query := [("wallet.address", wallet)]

/-- Complete a payment after a redirect. -/
def redirect (uid wallet : String) (details : Json.Value) (paymentData : Option String) :
    Endpoint where
  method := .patch
  path := transactionPath uid
  query := [("wallet.address", wallet)]
  body := some (.object [("details", details),
    ("payment_data", Json.Value.optional .string paymentData)])

/-- Forget the payment instruments of a wallet. -/
def disable (wallet : String) : Endpoint where
  method := .post
  path := gateway ++ "/disable-recurring".toList
  body := some (.object [("wallet_address", .string wallet)])

/-- How much may be topped up? -/
def limits (currency : String) : Endpoint where
  path := "/product/8.20200701/topup/billing/values".toList
  query := [("currency", currency)]

/-! ## Bonuses -/

/-- Which bonus earns a wallet by spending this many tokens? -/
def forecast (wallet package : String) (amount : Decimal) : Endpoint where
  path := "/gamification/bonus_forecast".toList
  query := [("address", wallet), ("package_name", package), ("amount", amount.toText),
    ("currency", tokenCode)]

/-- The endpoint that answers a request on behalf of a wallet. -/
def of? (wallet : String) : Request → Option Endpoint
  | .quote currency value target => some (quote currency value target)
  | .limits currency => some (limits currency)
  | .forecast package amount => some (forecast wallet package amount)
  | .partner role package => some (partner role package)
  | .methods => some methods
  | .info method value currency wallet => some (info method value currency wallet)
  | .pay payment => some (pay payment)
  | .redirect uid wallet details paymentData => some (redirect uid wallet details paymentData)
  | .transaction uid named => some (transaction uid (named.getD wallet))
  | .disable wallet => some (disable wallet)
  | .wallet => none
  | .saveRate _ _ => none
  | .loadRate _ => none

end Endpoint

/-! ## Answers -/

/-- The list in an envelope. -/
def items? (tree : Json.Tree) : Option (List PaymentMethod) := do
  let record ← Json.Record.ofTree? [⟨"items", false⟩] tree
  record.required "items" Json.Wire.decode?

/-- The address in a partner's answer. -/
def address? (tree : Json.Tree) : Option String :=
  (Json.Wire.decode? tree : Option PartnerAddress).map PartnerAddress.address

/-- The answer to a request, given the message and what came back. -/
def answer (message : Message) (reception : Reception) : Server := fun request =>
  let answered {α : Type} (result : Except ClientError α) : Except ServiceError α :=
    result.mapError ServiceError.client
  let decoded (α : Type) [Json.Wire α] : Except ServiceError α :=
    answered (read Json.Wire.decode? message reception)
  match request with
  | .quote _ _ _ => decoded Quote
  | .limits _ => decoded TopUpLimits
  | .forecast _ _ => decoded BonusForecast
  | .wallet => Except.error .noWallet
  | .partner _ _ => answered (read address? message reception)
  | .methods => answered (read items? message reception)
  | .info _ _ _ _ => decoded PaymentInfo
  | .pay _ => decoded PaymentReply
  | .redirect _ _ _ _ => decoded PaymentReply
  | .transaction _ _ => decoded TransactionUpdate
  | .disable _ => answered (confirm message reception)
  | .saveRate _ _ => Except.ok ()
  | .loadRate _ => Except.ok none

end Http

end WalletTopUp
