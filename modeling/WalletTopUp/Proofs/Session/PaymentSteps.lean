import WalletTopUp.Proofs.Payment.Reading
import WalletTopUp.Proofs.Pipeline.Announcements
import WalletTopUp.Proofs.Session.Payments

/-!
# Steps of a payment

Everything that a step of the payment's task does as long as the screen is up and the presentation
layer listens (`SessionRun.PaymentTurn`).  An effect is then either put into the queue or kept by
its sender, but never dropped.  Whatever else happens beside the session and its payment has nothing
to do with payments (`SessionRun.Beside`).
-/

namespace WalletTopUp

-- A statement about what a conversion asks for must not be decided by reading the amount.
attribute [local irreducible] Amount.isNonNegative

namespace Sink

variable {σ : Type} [BEq σ]

end Sink

namespace SessionRun

variable {settings : SessionSettings} {run next : SessionRun} {event : Move} {past : History}

/-! ## A screen that is up -/

/-- The screen is up, and the presentation layer listens. -/
structure IsAlive (run : SessionRun) : Prop where
  up : run.sink.shutdown.isDown = false
  listening : run.sink.listening = true

/-- In a session that is alive nobody has given up listening. -/
theorem IsAlive.kept (alive : IsAlive run) : run.sink.gaveUp = false := by
  rw [Sink.gaveUp, alive.up, alive.listening]
  rfl

end SessionRun

end WalletTopUp
