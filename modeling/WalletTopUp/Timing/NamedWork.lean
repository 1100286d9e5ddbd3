import WalletTopUp.Timing.Debouncer
import WalletTopUp.Timing.SwitchLatest

/-!
# Work under names

Requests that have names, of which only the latest one's work is in flight.  Work takes its time, or
never ends.
-/

namespace WalletTopUp

/-- Work for named requests. -/
structure NamedWork where
  now : Instant := 0
  /-- The work in flight: its name, and when it ends. -/
  latest : SwitchLatest (String × Option Instant) := {}
  /-- The last ticket of each name, in the order of the names' first requests. -/
  tickets : List (String × Ticket) := []
  /-- What has ended, in order. -/
  finished : List (Instant × String) := []

namespace NamedWork

/-- Note the ticket of a name. -/
def note (name : String) (ticket : Ticket) : List (String × Ticket) → List (String × Ticket)
  | [] => [(name, ticket)]
  | known :: rest =>
    if known.1 = name then (name, ticket) :: rest else known :: note name ticket rest

/-- Take note of the work in flight if it has ended. -/
def settle (work : NamedWork) : NamedWork :=
  match work.latest.current with
  | some (name, some time) =>
    if time ≤ work.now then
      { work with
        latest := work.latest.finish
        finished := work.finished ++ [(time, name)] }
    else work
  | _ => work

/-- Begin the request of a name. -/
def begin (work : NamedWork) (name : String) : NamedWork :=
  let (latest, ticket) := work.latest.begin
  { work with latest, tickets := note name ticket work.tickets }

/-- Put work in flight that takes some milliseconds, or never ends. -/
def attach (work : NamedWork) (name : String) (milliseconds : Option Nat) : NamedWork :=
  settle { work with
    latest := work.latest.attach (name, milliseconds.map fun duration => work.now + duration) }

/-- Drop the work in flight. -/
def cancel (work : NamedWork) : NamedWork := { work with latest := work.latest.cancel }

/-- Let time pass. -/
def pass (work : NamedWork) (milliseconds : Nat) : NamedWork :=
  settle { work with now := work.now + milliseconds }

/-- The names whose last ticket is the latest one. -/
def current (work : NamedWork) : List String :=
  (work.tickets.filter fun known => work.latest.isCurrent known.2).map Prod.fst

end NamedWork

end WalletTopUp
