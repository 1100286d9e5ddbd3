/-!
# Switch to latest

Work that is always done for the latest request only.  A new request gets a fresh ticket and drops
the work in flight for the one before; whatever still comes in for an older ticket is told apart by
its number.

Dropping work is one step here: dropped work asks nothing and reports nothing any more.  What it
reported before may still be waiting to be taken, and is then refused for its ticket.  Work that
gets as far as a report while it is being aborted is the same case as work that reported just
before: either way there is a report with a stale ticket.
-/

namespace WalletTopUp

/-- The number of a request. -/
structure Ticket where
  number : Nat
deriving DecidableEq, Inhabited

/-- The latest request and the work in flight for it. -/
structure SwitchLatest (τ : Type) where
  /-- How many requests and cancellations there have been. -/
  sequence : Nat := 0
  /-- The work in flight. -/
  current : Option τ := none
deriving Inhabited

namespace SwitchLatest

/-- Drop the work in flight, which takes no further step, and make every ticket stale: a report that
has already been made is only told apart by its ticket. -/
def cancel (latest : SwitchLatest τ) : SwitchLatest τ := ⟨latest.sequence + 1, none⟩

/-- The ticket of the latest request, unless it has been cancelled since. -/
def ticket (latest : SwitchLatest τ) : Ticket := ⟨latest.sequence⟩

/-- Drop the work in flight, as a cancellation does, and issue the ticket of the next request. -/
def begin (latest : SwitchLatest τ) : SwitchLatest τ × Ticket :=
  (latest.cancel, latest.cancel.ticket)

/-- Put work in flight, dropping what was there. -/
def attach (latest : SwitchLatest τ) (work : τ) : SwitchLatest τ :=
  { latest with current := some work }

/-- Whether a ticket is the latest one. -/
def isCurrent (latest : SwitchLatest τ) (ticket : Ticket) : Bool :=
  ticket.number == latest.sequence

/-- Take the work out because it is finished. -/
def finish (latest : SwitchLatest τ) : SwitchLatest τ := { latest with current := none }

/-- A ticket that was issued is current until the next request or cancellation. -/
theorem isCurrent_begin (latest : SwitchLatest τ) :
    latest.begin.1.isCurrent latest.begin.2 = true := by
  simp [begin, isCurrent, ticket, cancel]

/-- A current ticket is stale after a cancellation. -/
theorem isCurrent_cancel_of_isCurrent {latest : SwitchLatest τ} {ticket : Ticket}
    (h : latest.isCurrent ticket = true) : latest.cancel.isCurrent ticket = false := by
  simp only [isCurrent, beq_iff_eq] at h
  simp only [isCurrent, cancel, h]
  simp

end SwitchLatest

end WalletTopUp
