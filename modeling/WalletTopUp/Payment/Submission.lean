import WalletTopUp.Payment.Order
import WalletTopUp.Payment.Status
import WalletTopUp.Service.Dialogue

/-!
# Submitting payments

A payment is only sent once the paying wallet is known and, for a payment that is routed to
partners, both of their addresses.  Each step that fails has an error of its own, and then nothing
reaches the provider.
-/

namespace WalletTopUp

/-- Why a payment was not made. -/
inductive PaymentError where
  | identity (error : ServiceError)
  | routingAddress (role : PartnerRole) (error : ServiceError)
  | submission (error : ServiceError)
  | refused (uid : Option String) (reason : String)
  | missingTransaction
deriving DecidableEq, Inhabited

/-- The word for the kind of a payment error. -/
def PaymentError.kind : PaymentError → String
  | .identity _ => "Identity"
  | .routingAddress _ _ => "RoutingAddress"
  | .submission _ => "Submission"
  | .refused _ _ => "Refused"
  | .missingTransaction => "MissingTransaction"

/-- The text of a payment error. -/
def PaymentError.message : PaymentError → String
  | .identity error => "failed to resolve the wallet: " ++ error.message
  | .routingAddress role error =>
    "failed to resolve the " ++ role.name ++ " address: " ++ error.message
  | .submission error => "payment submission failed: " ++ error.message
  | .refused _ reason => "payment refused: " ++ reason
  | .missingTransaction => "provider response carries no transaction"

/-- What the provider made of a payment. -/
inductive PaymentOutcome where
  /-- The user has to complete the payment. -/
  | redirect (uid : Option String) (action : PaymentAction)
  /-- The transaction has come to its end. -/
  | finished (uid : String) (status : TransactionStatus)
  /-- The transaction is under way. -/
  | pending (uid : String)
deriving DecidableEq, Inhabited

/-- What comes of a payment. -/
abbrev PaymentResult : Type := Except PaymentError PaymentOutcome

/-- What a reply of the provider means. -/
def PaymentReply.outcome (reply : PaymentReply) : PaymentResult :=
  if reply.isRefused then .error (.refused reply.uid reply.refusalMessage)
  else match reply.action, reply.uid with
    | some action, uid => .ok (.redirect uid action)
    | none, none => .error .missingTransaction
    | none, some uid =>
      match reply.status with
      | some status => if status.isFinal then .ok (.finished uid status) else .ok (.pending uid)
      | none => .ok (.pending uid)

namespace Payment

/-- Go on with the wallet that pays. -/
def withWallet (next : String → Dialogue (Except PaymentError α)) :
    Dialogue (Except PaymentError α) :=
  .call .wallet fun
    | .error error => .done (.error (.identity error))
    | .ok wallet => next wallet

/-- Send a request to the provider and read its reply. -/
def send (order : PaymentOrder) (wallet : String) (routing : Option Routing) :
    Dialogue PaymentResult :=
  .call (.pay (order.request wallet routing)) fun
    | .error error => .done (.error (.submission error))
    | .ok reply => .done (PaymentReply.outcome reply)

/-- Look up both partners of a package at once.  The first failure decides. -/
def lookUpPartners (package : String) : Dialogue (Except PaymentError Routing) :=
  .both (.partner .store package) (.partner .oem package)
    (fun error => .done (.error (.routingAddress .store error)))
    (fun error => .done (.error (.routingAddress .oem error)))
    (fun store oem => .done (.ok ⟨store, oem⟩))

/-- Pay for a purchase whose revenue is shared with the store and the maker of the device. -/
def submit (order : PaymentOrder) : Dialogue PaymentResult :=
  withWallet fun wallet =>
    (lookUpPartners order.package).andThen fun routing => send order wallet (some routing)

/-- Top up the wallet. -/
def submitTopUp (order : PaymentOrder) : Dialogue PaymentResult :=
  withWallet fun wallet => send order wallet none

/-- Complete a payment with what a redirect came back with. -/
def submitRedirect (uid : String) (details : Json.Value) (paymentData : Option String) :
    Dialogue PaymentResult :=
  withWallet fun wallet =>
    .call (.redirect uid wallet details paymentData) fun
      | .error error => .done (.error (.submission error))
      | .ok reply => .done (PaymentReply.outcome reply)

/-- How a payment with a method would look. -/
def loadInfo (method value currency : String) : Dialogue (Except PaymentError PaymentInfo) :=
  withWallet fun wallet =>
    .call (.info method value currency wallet) fun
      | .error error => .done (.error (.submission error))
      | .ok info => .done (.ok info)

/-- Forget the payment instruments of the wallet. -/
def disable : Dialogue (Except PaymentError Unit) :=
  withWallet fun wallet =>
    .call (.disable wallet) fun
      | .error error => .done (.error (.submission error))
      | .ok _ => .done (.ok ())

/-- How far a transaction of the wallet has got. -/
def fetchTransaction (uid : String) : Dialogue (Except ServiceError TransactionUpdate) :=
  .call .wallet fun
    | .error error => .done (.error error)
    | .ok wallet => .call (.transaction uid (some wallet)) .done

end Payment

end WalletTopUp
