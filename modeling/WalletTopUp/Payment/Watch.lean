import WalletTopUp.Payment.Status
import WalletTopUp.Service.Exchange
import WalletTopUp.Timing.Ticker

/-!
# Following a transaction

A watch fetches a transaction once per period until its status is final.  It does something only
while somebody reads it.  A fetch that is still open when the next tick comes is dropped for a new
one, so a slow answer never overtakes a newer one; a fetch that fails is passed over.
-/

namespace WalletTopUp

/-- One fetch of a transaction. -/
abbrev FetchResult : Type := Except ServiceError TransactionUpdate

/-- What a watch does. -/
structure Watch.Settings where
  filter : StatusFilter
  /-- Milliseconds between two ticks; zero stands for the default. -/
  period : Nat
  /-- How the transaction is fetched. -/
  fetch : Dialogue FetchResult

/-- A transaction that is followed. -/
structure Watch where
  /-- The timer, from the first reading to the end. -/
  ticker : Option Ticker := none
  /-- The fetch in flight. -/
  inFlight : Option (Exchange FetchResult) := none
  /-- The status that was delivered last. -/
  lastDelivered : Option TransactionStatus := none
  finished : Bool := false

namespace Watch

/-- The milliseconds between two ticks unless told otherwise. -/
def defaultPeriod : Nat := 5000

/-- The milliseconds that lie between two ticks. -/
def Settings.interval (settings : Settings) : Nat :=
  if settings.period = 0 then defaultPeriod else settings.period

/-- What happens when a watch is read. -/
inductive Progress where
  /-- Nothing, before time passes or an answer comes. -/
  | idle
  /-- The watch has moved on and has more to do. -/
  | moved (watch : Watch)
  /-- An update has come. -/
  | delivered (update : TransactionUpdate) (watch : Watch)
  /-- There are no more updates. -/
  | ended

/-- Begin a fetch because a tick is due. -/
def refetch (settings : Settings) (watch : Watch) (ticker : Ticker) (now : Instant) : Watch :=
  { watch with
    ticker := some (ticker.tick now)
    inFlight := some (.ready settings.fetch) }

/-- Go on after a fetch has ended. -/
def receive (settings : Settings) (watch : Watch) : FetchResult → Progress
  | .error _ => .moved { watch with inFlight := none }
  | .ok update =>
    if settings.filter.delivers update.status && watch.lastDelivered != some update.status then
      .delivered update
        { ticker := if update.status.isFinal then none else watch.ticker
          inFlight := none
          lastDelivered := some update.status
          finished := update.status.isFinal }
    else .moved { watch with inFlight := none }

/-- What happens next when the watch is read.  A fetch that has ended goes before a tick. -/
def next (settings : Settings) (watch : Watch) (now : Instant) : Progress :=
  if watch.finished then .ended
  else match watch.ticker with
    | none => .moved { watch with ticker := some (.start settings.interval now) }
    | some ticker =>
      match watch.inFlight with
      | none => if ticker.isDue now then .moved (watch.refetch settings ticker now) else .idle
      | some exchange =>
        match exchange.result? with
        | some result => watch.receive settings result
        | none => if ticker.isDue now then .moved (watch.refetch settings ticker now) else .idle

/-- The request that the fetch in flight puts out next. -/
def ask? (watch : Watch) : Option (Request × (CallId → Watch)) :=
  match watch.inFlight with
  | none => none
  | some exchange =>
    exchange.ask?.map fun (request, resume) =>
      (request, fun call => { watch with inFlight := some (resume call) })

/-- The watch after a call is answered. -/
def hear (call : CallId) (server : Server) (watch : Watch) : Watch :=
  { watch with inFlight := watch.inFlight.map (Exchange.hear call server) }

/-- The calls of the fetch in flight. -/
def openCalls (watch : Watch) : List (CallId × Request) :=
  match watch.inFlight with
  | none => []
  | some exchange => exchange.openCalls

end Watch

end WalletTopUp
