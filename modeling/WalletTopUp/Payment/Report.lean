import WalletTopUp.Payment.Submission

/-!
# Reports of payments

Orders and what comes of them, written down as JSON.
-/

namespace WalletTopUp

open Json

/-- An order in a report. -/
def PaymentOrder.report (order : PaymentOrder) : Value := .object [
  ("method", .string order.method),
  ("payment", order.payment),
  ("return_url", .string order.returnUrl),
  ("value", decimal order.value),
  ("currency", .string order.currency),
  ("package", .string order.package),
  ("type", .string order.transactionType),
  ("reference", Value.optional .string order.reference),
  ("origin", Value.optional .string order.origin),
  ("metadata", Value.optional .string order.metadata),
  ("sku", Value.optional .string order.sku),
  ("callback_url", Value.optional .string order.callbackUrl),
  ("developer_wallet", Value.optional .string order.developerWallet)]

/-- An outcome in a report. -/
def PaymentOutcome.report : PaymentOutcome → Value
  | .redirect uid action => .object [
    ("outcome", .string "redirect"), ("uid", Value.optional .string uid),
    ("action", encode action)]
  | .finished uid status => .object [
    ("outcome", .string "finished"), ("uid", .string uid), ("status", encode status)]
  | .pending uid => .object [("outcome", .string "pending"), ("uid", .string uid)]

/-- What a payment error tells besides its kind and its text. -/
def PaymentError.details : PaymentError → List (String × Value)
  | .routingAddress role _ => [("role", .string role.name)]
  | .refused uid _ => [("uid", Value.optional .string uid)]
  | _ => []

/-- A payment error in a report. -/
def PaymentError.report (error : PaymentError) : Value :=
  .object ([("error", .string error.kind), ("message", .string error.message)] ++ error.details)

end WalletTopUp
