import WalletTopUp.Service.Exchange
import WalletTopUp.Timing.Debouncer

/-!
# Schedules

How a run is carried on by a world whose services answer after a given time.  All that can happen at
one instant happens before time passes.  The tasks that can take a step stand in a queue; the first
one goes on until it has to wait, and tasks that become able to go on queue up behind.  Time jumps
to the next instant at which something is due.

A system tells its tasks, their steps, its calls, and the next instant it waits for.  The world is
asked about each call as it is made.
-/

namespace WalletTopUp

namespace Schedule

/-- Something that moves by steps of its tasks. -/
structure System (σ τ : Type) where
  /-- All tasks, in the order in which they queue up when they become able to go on at once. -/
  tasks : List τ
  /-- One step of a task, `none` if it has to wait. -/
  step : τ → σ → Option σ
  /-- The calls that have been made, in order. -/
  calls : σ → List (Instant × Request)
  /-- The system after a call is answered. -/
  hear : CallId → Server → σ → σ
  now : σ → Instant
  /-- The system at a later instant. -/
  advanceTo : Instant → σ → σ
  /-- The instants at which timers of the system are due. -/
  timers : σ → List Instant

/-- How a service takes a call: its answers, and after how many milliseconds they come; `none` if
they never come. -/
structure Reply where
  delay : Option Nat
  server : Server

/-- A world with services: how it takes a request, and the world afterwards. -/
structure World (ω : Type) where
  take : ω → Request → Reply × ω

/-- An answer on its way. -/
structure Due where
  call : CallId
  time : Instant
  server : Server

/-- A system in a world. -/
structure Scene (σ τ ω : Type) where
  system : σ
  world : ω
  /-- The tasks that can go on, in the order of their turns. -/
  ready : List τ := []
  /-- The answers on their way, in the order of their calls. -/
  pending : List Due := []

variable {σ τ ω : Type} [BEq τ]

/-- Queue up the tasks that can go on and are not in the queue yet. -/
def refresh (system : System σ τ) (running : Option τ) (scene : Scene σ τ ω) : Scene σ τ ω :=
  let able := system.tasks.filter fun task =>
    !(scene.ready.contains task) && running != some task && (system.step task scene.system).isSome
  { scene with ready := scene.ready ++ able }

/-- Let the world take the calls that have been made since there were `known` of them.  A call that
is answered without delay is answered at once. -/
def takeCalls (system : System σ τ) (world : World ω) (known : Nat) (scene : Scene σ τ ω) :
    Scene σ τ ω :=
  match (system.calls scene.system)[known]? with
  | none => scene
  | some (time, request) =>
    let (reply, later) := world.take scene.world request
    match reply.delay with
    | none => { scene with world := later }
    | some 0 =>
      { scene with system := system.hear known reply.server scene.system, world := later }
    | some (delay + 1) =>
      { scene with
        world := later
        pending := scene.pending ++ [⟨known, time + delay + 1, reply.server⟩] }

/-- Let a task go on until it has to wait. -/
def runTask (system : System σ τ) (world : World ω) (task : τ) :
    Nat → Scene σ τ ω → Scene σ τ ω
  | 0, scene => scene
  | fuel + 1, scene =>
    match system.step task scene.system with
    | none => scene
    | some next =>
      let known := (system.calls scene.system).length
      let stepped := takeCalls system world known { scene with system := next }
      runTask system world task fuel (refresh system (some task) stepped)

/-- Carry everything that can happen at this instant to its end. -/
def settle (system : System σ τ) (world : World ω) : Nat → Scene σ τ ω → Scene σ τ ω
  | 0, scene => scene
  | fuel + 1, scene =>
    match (refresh system none scene).ready with
    | [] => scene
    | task :: rest =>
      settle system world fuel
        (runTask system world task (fuel + 1) { scene with ready := rest })

/-- Hand over the answers that are due. -/
def deliver (system : System σ τ) (scene : Scene σ τ ω) : Scene σ τ ω :=
  let now := system.now scene.system
  let due := scene.pending.filter fun answer => answer.time ≤ now
  { scene with
    pending := scene.pending.filter fun answer => now < answer.time
    system := due.foldl (fun state answer => system.hear answer.call answer.server state)
      scene.system }

/-- The next instant at which something is due. -/
def nextInstant? (system : System σ τ) (scene : Scene σ τ ω) : Option Instant :=
  let now := system.now scene.system
  let instants := system.timers scene.system ++ scene.pending.map Due.time
  (instants.filter fun instant => now < instant).min?

/-- How many steps one instant may take. -/
def stepLimit : Nat := 100000

/-- The scene at a later instant. -/
def jump (system : System σ τ) (instant : Instant) (scene : Scene σ τ ω) : Scene σ τ ω :=
  { scene with system := system.advanceTo (max instant (system.now scene.system)) scene.system }

/-- Let time pass until `finished` holds or a limit is reached, with everything due at the limit.
`meanwhile` is done whenever everything of an instant has happened.  Where there is no limit time
passes as long as something is due. -/
def carryOn (system : System σ τ) (world : World ω) (meanwhile : Scene σ τ ω → Scene σ τ ω)
    (finished : σ → Bool) (limit : Option Instant) : Nat → Scene σ τ ω → Scene σ τ ω
  | 0, scene => scene
  | fuel + 1, scene =>
    let settled := meanwhile (settle system world stepLimit scene)
    if finished settled.system then settled
    else match nextInstant? system settled, limit with
      | none, none => settled
      | none, some last => jump system last settled
      | some instant, none =>
        carryOn system world meanwhile finished limit fuel
          (deliver system (jump system instant settled))
      | some instant, some last =>
        if instant ≤ last then
          carryOn system world meanwhile finished limit fuel
            (deliver system (jump system instant settled))
        else jump system last settled

end Schedule

end WalletTopUp
