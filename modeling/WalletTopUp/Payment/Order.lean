import WalletTopUp.Amount.Entry
import WalletTopUp.Wire.Payment

/-!
# Payment orders

All that a payment needs except for the addresses that have to be looked up first.
-/

namespace WalletTopUp

/-- What the presentation layer adds to a click on the submit control. -/
structure Submission where
  /-- The data of the payment method: the output of a card form, a token, and the like. -/
  payment : Json.Value
  returnUrl : String
deriving Inhabited, BEq

/-- A payment to be made. -/
structure PaymentOrder where
  method : String
  payment : Json.Value
  returnUrl : String
  value : Decimal
  currency : String
  package : String
  transactionType : String
  reference : Option String := none
  origin : Option String := none
  metadata : Option String := none
  sku : Option String := none
  callbackUrl : Option String := none
  developerWallet : Option String := none
deriving Inhabited, BEq

/-- The addresses of the partners that a payment is routed to. -/
structure Routing where
  store : String
  oem : String
deriving DecidableEq, Inhabited

namespace PaymentOrder

/-- The transaction type of a top-up. -/
def topUpType : String := "TOPUP"

/-- The top-up of an entry's fiat amount, if that is positive. -/
def topUp (method : PaymentMethod) (entry : AmountEntry) (submission : Submission)
    (package : String) : Option PaymentOrder :=
  entry.fiat.positive?.map fun value =>
    { method := method.id
      payment := submission.payment
      returnUrl := submission.returnUrl
      value
      currency := entry.currency.code
      package
      transactionType := topUpType }

/-- The request that pays an order from a wallet.  A payment that is routed to partners names the
wallet as the user's as well. -/
def request (order : PaymentOrder) (wallet : String) (routing : Option Routing) :
    PaymentRequest where
  payment := order.payment
  returnUrl := order.returnUrl
  priceValue := order.value
  priceCurrency := order.currency
  reference := order.reference
  method := order.method
  walletAddress := wallet
  origin := order.origin
  domain := order.package
  metadata := order.metadata
  sku := order.sku
  callbackUrl := order.callbackUrl
  transactionType := order.transactionType
  developerWallet := order.developerWallet
  storeWallet := routing.map Routing.store
  oemWallet := routing.map Routing.oem
  userWallet := routing.map fun _ => wallet

end PaymentOrder

end WalletTopUp
