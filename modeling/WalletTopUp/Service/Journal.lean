import WalletTopUp.Service.Exchange
import WalletTopUp.Service.Name
import WalletTopUp.Timing.Debouncer

/-!
# The journal of calls

Calls written down as JSON: who was asked, when, and for what.
-/

namespace WalletTopUp

namespace Journal

open Json

/-- What a request asks for. -/
def fields : Request → List (String × Value)
  | .quote currency value target =>
    [("currency", .string currency), ("value", .string value),
      ("target", Value.optional .string target)]
  | .limits currency => [("currency", .string currency)]
  | .forecast package amount => [("package", .string package), ("amount", decimal amount)]
  | .partner _ package => [("package", .string package)]
  | .info method value currency wallet =>
    [("method", .string method), ("value", .string value), ("currency", .string currency),
      ("wallet", .string wallet)]
  | .pay payment => [("request", encode payment)]
  | .redirect uid wallet details paymentData =>
    [("uid", .string uid), ("wallet", .string wallet), ("details", details),
      ("payment_data", Value.optional .string paymentData)]
  | .transaction uid wallet =>
    ("uid", .string uid) :: wallet.toList.map fun wallet => ("wallet", .string wallet)
  | .disable wallet => [("wallet", .string wallet)]
  | .wallet => []
  | .methods => []
  | .saveRate _ _ => []
  | .loadRate _ => []

/-- A call: its time and what it asked for. -/
def entry (time : Instant) (request : Request) : Value :=
  .object (("t", .number (.integer time)) :: fields request)

/-- Items under the names of their services, in the order of the names' first appearances. -/
def grouped {α : Type} (items : List (ServiceName × α)) : List (ServiceName × List α) :=
  items.foldl (fun groups (service, item) =>
    if groups.any fun group => group.1 == service then
      groups.map fun group => if group.1 == service then (service, group.2 ++ [item]) else group
    else groups ++ [(service, [item])]) []

/-- The calls of each service. -/
def calls (called : Request → Bool) (made : List (Instant × Request)) : Value :=
  let entries := (made.filter fun call => called call.2).filterMap fun (time, request) =>
    request.service?.map fun service => (service, entry time request)
  .object ((grouped entries).map fun (service, entries) => (service.text, .array entries))

/-- How many calls of each service are open. -/
def openCalls (called : Request → Bool) (waiting : List (CallId × Request)) : Value :=
  let services := (waiting.filter fun call => called call.2).filterMap fun (_, request) =>
    request.service?.map fun service => (service, ())
  .object ((grouped services).map fun (service, calls) =>
    (service.text, .number (.integer calls.length)))

/-- What a service answered: its result as JSON, or its error. -/
def answer (request : Request) (answer : request.Answer) : Except ServiceError Value :=
  match request, answer with
  | .quote _ _ _, (answer : Except ServiceError Quote) => answer.map encode
  | .limits _, (answer : Except ServiceError TopUpLimits) => answer.map encode
  | .forecast _ _, (answer : Except ServiceError BonusForecast) => answer.map encode
  | .wallet, (answer : Except ServiceError String) => answer.map .string
  | .partner _ _, (answer : Except ServiceError String) => answer.map .string
  | .methods, (answer : Except ServiceError (List PaymentMethod)) => answer.map encode
  | .info _ _ _ _, (answer : Except ServiceError PaymentInfo) => answer.map encode
  | .pay _, (answer : Except ServiceError PaymentReply) => answer.map encode
  | .redirect _ _ _ _, (answer : Except ServiceError PaymentReply) => answer.map encode
  | .transaction _ _, (answer : Except ServiceError TransactionUpdate) => answer.map encode
  | .disable _, (answer : Except ServiceError Unit) => answer.map fun _ => .null
  | .saveRate _ _, _ => .ok .null
  | .loadRate _, _ => .ok .null

end Journal

end WalletTopUp
