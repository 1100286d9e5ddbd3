import WalletTopUp.Rates.Store
import WalletTopUp.Schedule.Basic
import WalletTopUp.Service.Name

/-!
# Scripted services

A world whose services give replies that are fixed beforehand.  Each call takes the next reply of
its service, and the last one is repeated.  A service without replies cannot be reached.
-/

namespace WalletTopUp

namespace Schedule

/-- A reply that comes at once. -/
def Reply.atOnce (server : Server) : Reply := ⟨some 0, server⟩

/-- Replies that are given one after the other. -/
structure Script where
  replies : List Reply := []

/-- The next reply of a script, given for a service. -/
def Script.take (service : ServiceName) (script : Script) : Reply × Script :=
  match script.replies with
  | [] => (.atOnce (.absent service), script)
  | [last] => (last, script)
  | first :: rest => (first, ⟨rest⟩)

/-- Replies of the broker to certain questions.  What a rule does not tell does not matter. -/
structure QuoteRule where
  currency : Option String := none
  value : Option String := none
  /-- No target is the empty one. -/
  target : Option String := none
  script : Script

/-- Whether a rule is for a question. -/
def QuoteRule.covers (rule : QuoteRule) (currency value : String) (target : Option String) :
    Bool :=
  rule.currency.all (· == currency) && rule.value.all (· == value)
    && rule.target.all (· == target.getD "")

/-- Services whose replies are fixed beforehand. -/
structure Scripted where
  /-- The replies of the broker: the first rule that covers a question answers it. -/
  rules : List QuoteRule
  scripts : ServiceName → Script
  /-- Whether the wallet is fixed, and then its address. -/
  wallet : Option (Option String)
  store : RateStore

namespace Scripted

/-- The reply of the first rule that covers a question. -/
def quote (currency value : String) (target : Option String) :
    List QuoteRule → Reply × List QuoteRule
  | [] => (.atOnce (.absent .broker), [])
  | rule :: rest =>
    if rule.covers currency value target then
      let (reply, script) := rule.script.take .broker
      (reply, { rule with script } :: rest)
    else
      let (reply, later) := quote currency value target rest
      (reply, rule :: later)

/-- The reply of a service. -/
def ask (scripted : Scripted) (service : ServiceName) : Reply × Scripted :=
  let (reply, later) := (scripted.scripts service).take service
  (reply, { scripted with
    scripts := fun other => if other = service then later else scripted.scripts other })

/-- How the services take a request. -/
def take (scripted : Scripted) (request : Request) : Reply × Scripted :=
  match request, scripted.wallet with
  | .quote currency value target, _ =>
    let (reply, rules) := quote currency value target scripted.rules
    (reply, { scripted with rules })
  | .saveRate key money, _ =>
    let (result, store) := scripted.store.save key (CachedRate.ofMoney money {})
    (.atOnce (.ofSaved result), { scripted with store })
  | .loadRate key, _ =>
    let stored := (scripted.store.load key).map fun found => found.map CachedRate.money
    (.atOnce (.ofStored stored), scripted)
  | .wallet, some address => (.atOnce (.ofWallet address), scripted)
  | request, _ =>
    match request.service? with
    | some service => scripted.ask service
    | none => (.atOnce (.failing .noWallet), scripted)

/-- Whether a request leaves the program. -/
def isCalled (scripted : Scripted) (request : Request) : Bool :=
  match request with
  | .wallet => scripted.wallet.isNone
  | request => request.service?.isSome

/-- The world of scripted services. -/
def world : World Scripted := ⟨take⟩

end Scripted

end Schedule

end WalletTopUp
