import WalletTopUp.Schedule.Script
import WalletTopUp.Schedule.Systems

/-!
# Audiences

A pipeline or a session that is carried on while somebody takes its effects, either as soon as they
come or only when told to.
-/

namespace WalletTopUp

namespace Schedule

/-- A system that tells a presentation layer about itself. -/
structure Stage (σ : Type) where
  system : System σ TaskName
  sink : σ → Sink TaskName
  /-- The system after the presentation layer has taken an effect. -/
  take : σ → Option σ
  /-- The calls that are neither answered nor dropped. -/
  openCalls : σ → List (CallId × Request)

/-- A pipeline with its presentation layer. -/
def Stage.pipeline (settings : PipelineSettings) : Stage PipelineRun where
  system := PipelineRun.system settings
  sink := PipelineRun.sink
  take := fun run => run.move settings .take
  openCalls := fun run => run.pipeline.openCalls

/-- A session with its presentation layer. -/
def Stage.session (settings : SessionSettings) : Stage SessionRun where
  system := SessionRun.system settings
  sink := SessionRun.sink
  take := fun run => run.move settings .take
  openCalls := SessionRun.openCalls

/-- A scene in front of a presentation layer. -/
abbrev Act (σ : Type) : Type := Scene σ TaskName Scripted

/-- Take effects as long as some come at this instant. -/
def Stage.drain (stage : Stage σ) : Nat → Act σ → Act σ
  | 0, act => act
  | fuel + 1, act =>
    let settled := settle stage.system Scripted.world stepLimit act
    match stage.take settled.system with
    | none => settled
    | some system => stage.drain fuel { settled with system }

/-- How many instants a wait may have. -/
def waitLimit : Nat := 1000000

/-- Carry on for some milliseconds, taking effects unless they are held back. -/
def Stage.pass (stage : Stage σ) (hold : Bool) (milliseconds : Nat) (act : Act σ) : Act σ :=
  let meanwhile := if hold then id else stage.drain stepLimit
  carryOn stage.system Scripted.world meanwhile (fun _ => false)
    (some (stage.system.now act.system + milliseconds)) waitLimit act

/-! ## Single dialogues -/

/-- Carry a dialogue to its result, or to a limit. -/
def converse (dialogue : Dialogue α) (now : Instant) (limit : Option Instant)
    (services : Scripted) : Scene (DialogueRun α) Unit Scripted :=
  carryOn (DialogueRun.system α) Scripted.world id (fun run => run.exchange.result?.isSome)
    limit waitLimit { system := { now, exchange := .ready dialogue }, world := services }

/-! ## Reading a watch -/

/-- How reading a watch came to its end. -/
inductive ReadingEnd where
  /-- Enough updates have come. -/
  | taken
  /-- There are no more updates. -/
  | closed
  /-- Time is over. -/
  | timeout
deriving DecidableEq, Inhabited

/-- The word for the end of a reading. -/
def ReadingEnd.name : ReadingEnd → String
  | taken => "taken"
  | closed => "closed"
  | timeout => "timeout"

/-- A watch that is read, and the updates that have come, the last one first. -/
structure Reading where
  scene : Scene WatchRun Unit Scripted
  updates : List (Instant × TransactionUpdate) := []

/-- Read updates until enough have come, there are no more, or time is over, with a pause after
each. -/
def Reading.finish (settings : Watch.Settings) (wanted : Option Nat) (pause : Nat)
    (limit : Instant) : Nat → Reading → Reading × ReadingEnd
  | 0, reading => (reading, .timeout)
  | fuel + 1, reading =>
    let carried (finished : WatchRun → Bool) (limit : Instant)
        (scene : Scene WatchRun Unit Scripted) : Scene WatchRun Unit Scripted :=
      carryOn (WatchRun.system settings) Scripted.world id finished (some limit) waitLimit scene
    if wanted = some reading.updates.length then (reading, .taken)
    else
      let asked := { reading.scene with
        system := { reading.scene.system with reading := true, update := none } }
      let later := carried (fun run => run.update.isSome || run.ended) limit asked
      match later.system.update with
      | some update =>
        let now := later.system.now
        finish settings wanted pause limit fuel
          ⟨carried (fun _ => false) (now + pause) later, (now, update) :: reading.updates⟩
      | none =>
        ({ reading with scene := later }, if later.system.ended then .closed else .timeout)

end Schedule

end WalletTopUp
