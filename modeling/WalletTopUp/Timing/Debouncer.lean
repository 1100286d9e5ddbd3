/-!
# Debouncing

A deadline that every new input pushes back.  Times are whole milliseconds.
-/

namespace WalletTopUp

/-- A point of time in milliseconds since the start of a run. -/
abbrev Instant := Nat

/-- The end of the quiet period that a series of inputs has to be followed by. -/
structure Debouncer where
  /-- The length of the quiet period. -/
  window : Nat
  deadline : Option Instant := none
deriving DecidableEq, Inhabited

namespace Debouncer

/-- Begin the quiet period anew. -/
def arm (debouncer : Debouncer) (now : Instant) : Debouncer :=
  { debouncer with deadline := some (now + debouncer.window) }

/-- Wait for nothing any more. -/
def disarm (debouncer : Debouncer) : Debouncer := { debouncer with deadline := none }

/-- Whether the quiet period is over.  Without a deadline it never is. -/
def elapsed (debouncer : Debouncer) (now : Instant) : Bool :=
  debouncer.deadline.any (· ≤ now)

/-- Arming again pushes the deadline back. -/
@[simp] theorem deadline_arm (debouncer : Debouncer) (now : Instant) :
    (debouncer.arm now).deadline = some (now + debouncer.window) := rfl

@[simp] theorem elapsed_disarm (debouncer : Debouncer) (now : Instant) :
    debouncer.disarm.elapsed now = false := rfl

end Debouncer

end WalletTopUp
