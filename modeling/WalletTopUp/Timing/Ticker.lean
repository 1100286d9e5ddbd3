import WalletTopUp.Timing.Debouncer

/-!
# Tickers

A periodic timer that is only looked at now and then.  Its first tick is due at once.  A tick that
is noticed more than the tolerance too late delays all later ones; one that is noticed earlier does
not move them.
-/

namespace WalletTopUp

/-- A periodic timer. -/
structure Ticker where
  period : Nat
  /-- When the next tick is due. -/
  next : Instant
deriving DecidableEq, Inhabited

namespace Ticker

/-- How late a tick may be noticed without moving the ones after it. -/
def tolerance : Nat := 5

/-- A timer whose first tick is due at once. -/
def start (period : Nat) (now : Instant) : Ticker := ⟨period, now⟩

/-- Whether a tick is due. -/
def isDue (ticker : Ticker) (now : Instant) : Bool := ticker.next ≤ now

/-- The timer after its due tick has been noticed. -/
def tick (ticker : Ticker) (now : Instant) : Ticker :=
  { ticker with
    next := (if ticker.next + tolerance < now then now else ticker.next) + ticker.period }

end Ticker

end WalletTopUp
