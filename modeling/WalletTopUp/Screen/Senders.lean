import WalletTopUp.Screen.Sink

/-!
# Senders

Many senders of effects at once.  Each one sends a single effect and waits for its turn if it has
to.
-/

namespace WalletTopUp

/-- A sink and the effects that wait with their senders. -/
structure Senders where
  sink : Sink Nat := {}
  /-- The effects whose senders wait, by the number of the sender. -/
  blocked : List (Nat × Effect) := []
  /-- How many senders there have been. -/
  count : Nat := 0

namespace Senders

/-- Let every waiting sender try again, in order. -/
def settle (senders : Senders) : Senders :=
  senders.blocked.foldl (fun state (sender, effect) =>
    match state.sink.emit sender effect with
    | (.waits, sink) => { state with sink, blocked := state.blocked ++ [(sender, effect)] }
    | (_, sink) => { state with sink }) { senders with blocked := [] }

/-- Send an effect several times, each time by a sender of its own. -/
def send (senders : Senders) (effect : Effect) (times : Nat) : Senders :=
  let begun := (List.range times).map fun index => (senders.count + index, effect)
  settle { senders with blocked := senders.blocked ++ begun, count := senders.count + times }

/-- Take some effects, the first one first. -/
def take (senders : Senders) : Nat → Senders × List Effect
  | 0 => (senders, [])
  | times + 1 =>
    match senders.sink.take? with
    | none => (senders, [])
    | some (effect, sink) =>
      let (later, rest) := (settle { senders with sink }).take times
      (later, effect :: rest)

/-- Change the signal that tears the screen down. -/
def signal (senders : Senders) (change : Shutdown → Shutdown) : Senders :=
  settle { senders with
    sink := { senders.sink with shutdown := change senders.sink.shutdown } }

/-- The presentation layer stops listening. -/
def stopListening (senders : Senders) : Senders :=
  settle { senders with sink := { senders.sink with listening := false } }

end Senders

end WalletTopUp
