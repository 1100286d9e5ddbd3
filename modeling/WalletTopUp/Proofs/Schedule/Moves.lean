import WalletTopUp.Proofs.History
import WalletTopUp.Schedule.Basic

/-!
# Moves of a system

A system moves when one of its tasks takes a step, when one of its calls is answered, and when time
passes.  Any order of these moves is a run, so what holds in every run holds whatever the world
does.  A schedule makes no other moves (`Schedule.reaches_carryOn`).
-/

namespace WalletTopUp

namespace Schedule

variable {σ τ ω : Type}

/-- What can happen to a system. -/
inductive System.Move (τ : Type) where
  /-- A task takes a step. -/
  | step (task : τ)
  /-- A call is answered. -/
  | answer (call : CallId) (server : Server)
  /-- Time passes. -/
  | advance (milliseconds : Nat)

/-- The system after a move, `none` if the move is not possible. -/
def System.move (system : System σ τ) (state : σ) : System.Move τ → Option σ
  | .step task => system.step task state
  | .answer call server => some (system.hear call server state)
  | .advance milliseconds => some (system.advanceTo (system.now state + milliseconds) state)

/-- The system gets from one state to another by moves. -/
def System.GetsTo (system : System σ τ) (first last : σ) : Prop :=
  ∃ past, Reaches system.move first past last

namespace System.GetsTo

variable {system : System σ τ} {first middle last : σ}

theorem refl (state : σ) : system.GetsTo state state := ⟨[], .start⟩

theorem single (move : System.Move τ) (moved : system.move first move = some last) :
    system.GetsTo first last :=
  ⟨[⟨first, move⟩], .step .start moved⟩

theorem trans (earlier : system.GetsTo first middle) (later : system.GetsTo middle last) :
    system.GetsTo first last := by
  obtain ⟨_, reachedFirst⟩ := earlier
  obtain ⟨_, reachedLast⟩ := later
  exact ⟨_, reachedFirst.trans reachedLast⟩

end System.GetsTo

variable (system : System σ τ) (world : World ω)

/-- Answering the calls that are made at once is a series of moves. -/
theorem getsTo_takeCalls (known : Nat) (scene : Scene σ τ ω) :
    system.GetsTo scene.system (takeCalls system world known scene).system := by
  unfold takeCalls
  split
  · exact .refl _
  · split
    next reply later _ =>
      split
      · exact .refl _
      · exact .single (.answer known reply.server) rfl
      · exact .refl _

/-- Delivering the answers that are due is a series of moves. -/
theorem getsTo_deliver (scene : Scene σ τ ω) :
    system.GetsTo scene.system (deliver system scene).system := by
  have heard : ∀ (due : List Due) (state : σ), system.GetsTo state
      (due.foldl (fun state answer => system.hear answer.call answer.server state) state) := by
    intro due
    induction due with
    | nil => exact .refl
    | cons answer rest ih =>
        intro state
        exact .trans (.single (.answer answer.call answer.server) rfl) (ih _)
  exact heard _ _

/-- Jumping to an instant is one move of the clock. -/
theorem getsTo_jump (instant : Instant) (scene : Scene σ τ ω) :
    system.GetsTo scene.system (jump system instant scene).system := by
  refine .single (.advance (instant - system.now scene.system)) ?_
  rw [System.move, Nat.add_comm, Nat.sub_add_eq_max]
  rfl

variable [BEq τ]

/-- Running a task until it waits is a series of moves. -/
theorem getsTo_runTask (task : τ) (fuel : Nat) (scene : Scene σ τ ω) :
    system.GetsTo scene.system (runTask system world task fuel scene).system := by
  induction fuel generalizing scene with
  | zero => exact .refl _
  | succ fuel ih =>
      unfold runTask
      split
      · exact .refl _
      · next next stepped =>
          have moved : system.GetsTo scene.system next := .single (.step task) stepped
          have taken := getsTo_takeCalls system world
            (system.calls scene.system).length { scene with system := next }
          exact (moved.trans taken).trans (ih (refresh system (some task) _))

/-- Running all tasks until each waits is a series of moves. -/
theorem getsTo_settle (fuel : Nat) (scene : Scene σ τ ω) :
    system.GetsTo scene.system (settle system world fuel scene).system := by
  induction fuel generalizing scene with
  | zero => exact .refl _
  | succ fuel ih =>
      unfold settle
      split
      · exact .refl _
      · next task rest _ =>
          have ran := getsTo_runTask system world task (fuel + 1) { scene with ready := rest }
          exact ran.trans (ih _)

/-- **A schedule is a run.**  Whatever the world answers and when, and whatever is done meanwhile by
moves of the system, a schedule gets on by moves of the system. -/
theorem reaches_carryOn {meanwhile : Scene σ τ ω → Scene σ τ ω}
    (moves : ∀ scene, system.GetsTo scene.system (meanwhile scene).system)
    (finished : σ → Bool) (limit : Option Instant) (fuel : Nat) (scene : Scene σ τ ω) :
    system.GetsTo scene.system
      (carryOn system world meanwhile finished limit fuel scene).system := by
  induction fuel generalizing scene with
  | zero => exact .refl _
  | succ fuel ih =>
      have settled := (getsTo_settle system world stepLimit scene).trans (moves _)
      have goesOn : ∀ (instant : Instant) (scene : Scene σ τ ω), system.GetsTo scene.system
          (carryOn system world meanwhile finished limit fuel
            (deliver system (jump system instant scene))).system := fun instant scene =>
        (getsTo_jump system instant scene).trans ((getsTo_deliver system _).trans (ih _))
      simp only [carryOn]
      split
      · exact settled
      · split
        · exact settled
        · exact settled.trans (getsTo_jump system _ _)
        · exact settled.trans (goesOn _ _)
        · split
          · exact settled.trans (goesOn _ _)
          · exact settled.trans (getsTo_jump system _ _)

end Schedule

end WalletTopUp
