import WalletTopUp.Screen.Effect

/-!
# The way to the screen

Effects wait for the presentation layer in a queue of 64 places.  A sender that finds no place waits
its turn.  Once the shutdown is signalled nothing more is put into the queue, and nobody waits any
longer; the same holds when the presentation layer has stopped listening.
-/

namespace WalletTopUp

/-- The signal that tears a screen down. -/
structure Shutdown where
  /-- The value of the signal. -/
  raised : Bool := false
  /-- Whether nobody can change the signal any more. -/
  orphaned : Bool := false
deriving DecidableEq, Inhabited

namespace Shutdown

/-- Whether whoever waits for the shutdown goes on. -/
def isDown (shutdown : Shutdown) : Bool := shutdown.raised || shutdown.orphaned

end Shutdown

/-- How many entries a queue between two tasks holds. -/
def queueCapacity : Nat := 64

/-- The queue of effects.  `σ` names the senders. -/
structure Sink (σ : Type) where
  shutdown : Shutdown := {}
  /-- Whether the presentation layer still listens. -/
  listening : Bool := true
  /-- Every effect that has been put into the queue, in order. -/
  accepted : List Effect := []
  /-- How many of them the presentation layer has taken. -/
  taken : Nat := 0
  /-- The senders waiting for a place, the longest waiting first. -/
  waiting : List σ := []
deriving Inhabited

/-- What comes of an attempt to send an effect. -/
inductive Delivery where
  /-- It is in the queue. -/
  | accepted
  /-- It is given up. -/
  | dropped
  /-- Its sender has to wait. -/
  | waits
deriving DecidableEq, Inhabited

namespace Sink

variable {σ : Type} [BEq σ]

/-- The effects that the presentation layer has not taken yet. -/
def queued (sink : Sink σ) : List Effect := sink.accepted.drop sink.taken

/-- How many effects are in the queue. -/
def size (sink : Sink σ) : Nat := sink.accepted.length - sink.taken

/-- Whether nothing is sent any more. -/
def isClosed (sink : Sink σ) : Bool := sink.shutdown.raised || !sink.listening

/-- Whether a sender gives its effect up. -/
def gaveUp (sink : Sink σ) : Bool := sink.shutdown.isDown || !sink.listening

/-- How many senders wait before this one. -/
def ahead (sink : Sink σ) (sender : σ) : Nat :=
  (sink.waiting.takeWhile fun other => !(other == sender)).length

/-- Whether there is a place for a sender and for everybody who waits before it. -/
def hasPlace (sink : Sink σ) (sender : σ) : Bool :=
  sink.size + sink.ahead sender < queueCapacity

/-- The queue without a waiting sender. -/
def forget (sink : Sink σ) (sender : σ) : Sink σ :=
  { sink with waiting := sink.waiting.filter fun other => !(other == sender) }

/-- The queue with a sender waiting. -/
def await (sink : Sink σ) (sender : σ) : Sink σ :=
  { sink with
    waiting := if sink.waiting.contains sender then sink.waiting else sink.waiting ++ [sender] }

/-- Attempt to send an effect. -/
def emit (sink : Sink σ) (sender : σ) (effect : Effect) : Delivery × Sink σ :=
  if sink.gaveUp then (.dropped, sink.forget sender)
  else if sink.hasPlace sender then
    (.accepted, { sink.forget sender with accepted := sink.accepted ++ [effect] })
  else (.waits, sink.await sender)

/-- Take the next effect out of the queue.  Only who still listens can take one. -/
def take? (sink : Sink σ) : Option (Effect × Sink σ) :=
  if !sink.listening then none
  else match sink.queued with
    | [] => none
    | effect :: _ => some (effect, { sink with taken := sink.taken + 1 })

/-- Nothing is put into the queue once the shutdown is signalled. -/
theorem emit_of_isDown (sink : Sink σ) (sender : σ) (effect : Effect)
    (h : sink.shutdown.isDown = true) :
    sink.emit sender effect = (.dropped, sink.forget sender) := by
  simp [emit, gaveUp, h]

end Sink

end WalletTopUp
