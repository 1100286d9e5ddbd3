import WalletTopUp.Rates.Key
import WalletTopUp.Service.Error
import WalletTopUp.Wire.Bonus
import WalletTopUp.Wire.Payment

/-!
# Requests to services

Every question that the program can ask of the world outside, and the type of its answer.
-/

namespace WalletTopUp

/-- A question to a service. -/
inductive Request where
  /-- What is `value` of `currency` in `target`, or in the local currency? -/
  | quote (currency value : String) (target : Option String)
  /-- How much may be topped up? -/
  | limits (currency : String)
  /-- Which bonus earns spending this many tokens? -/
  | forecast (package : String) (amount : Decimal)
  /-- Which wallet pays? -/
  | wallet
  /-- Where does a partner of the package receive its share? -/
  | partner (role : PartnerRole) (package : String)
  /-- Which payment methods are there? -/
  | methods
  /-- How would a payment look? -/
  | info (method value currency wallet : String)
  /-- Pay. -/
  | pay (payment : PaymentRequest)
  /-- Complete a payment after a redirect. -/
  | redirect (uid wallet : String) (details : Json.Value) (paymentData : Option String)
  /-- How far has a transaction got? -/
  | transaction (uid : String) (wallet : Option String)
  /-- Forget the payment instruments of a wallet. -/
  | disable (wallet : String)
  /-- Store the result of a conversion. -/
  | saveRate (key : RateKey) (money : Money)
  /-- The stored result of a conversion. -/
  | loadRate (key : RateKey)
deriving Inhabited

namespace Request

/-- What a service answers when all goes well. -/
def Result : Request → Type
  | quote _ _ _ => Quote
  | limits _ => TopUpLimits
  | forecast _ _ => BonusForecast
  | wallet => String
  | partner _ _ => String
  | methods => List PaymentMethod
  | info _ _ _ _ => PaymentInfo
  | pay _ => PaymentReply
  | redirect _ _ _ _ => PaymentReply
  | transaction _ _ => TransactionUpdate
  | disable _ => Unit
  | saveRate _ _ => Unit
  | loadRate _ => Option Money

/-- Why a service gives no answer. -/
def Failure : Request → Type
  | saveRate _ _ => CacheError
  | loadRate _ => CacheError
  | _ => ServiceError

/-- The answer to a request. -/
abbrev Answer (request : Request) : Type := Except request.Failure request.Result

end Request

/-- A world outside that has an answer to every request. -/
abbrev Server : Type := (request : Request) → request.Answer

end WalletTopUp
