import WalletTopUp.Pipeline.Step

/-!
# Runs of a pipeline

A pipeline on its own with the way to the presentation layer, the calls made so far and the time.
A run moves by single steps of its tasks, by answers to open calls, by the passing of time, by new
inputs, and by what the presentation layer does; every order of these moves is a run.
-/

namespace WalletTopUp

/-- A call that has been made. -/
structure Call where
  time : Instant
  request : Request
deriving Inhabited

/-- A pipeline at work. -/
structure PipelineRun where
  now : Instant := 0
  sink : Sink TaskName := {}
  pipeline : Pipeline
  /-- All calls in the order in which they were made. -/
  calls : List Call := []

namespace PipelineRun

/-- A pipeline at its start. -/
def start (settings : PipelineSettings) : PipelineRun := { pipeline := .start settings }

/-- One step of a task: a call, if it wants to make one, and its own step otherwise. -/
def step (settings : PipelineSettings) (task : TaskName) (run : PipelineRun) :
    Option PipelineRun :=
  match run.pipeline.ask? task with
  | some (request, resume) =>
    some { run with
      pipeline := resume run.calls.length
      calls := run.calls ++ [⟨run.now, request⟩] }
  | none =>
    match task with
    | .pipeline =>
      (run.pipeline.step settings run.now run.sink).map fun (pipeline, sink) =>
        { run with pipeline, sink }
    | task => (run.pipeline.finish task).map fun pipeline => { run with pipeline }

/-- The run after a call is answered. -/
def hear (call : CallId) (server : Server) (run : PipelineRun) : PipelineRun :=
  { run with pipeline := run.pipeline.hear call server }

/-- What can happen in a run. -/
inductive Move where
  /-- A task takes a step. -/
  | step (task : TaskName)
  /-- A call is answered. -/
  | answer (call : CallId) (server : Server)
  /-- Time passes. -/
  | advance (milliseconds : Nat)
  /-- An input comes. -/
  | send (input : AmountInput)
  /-- There are no more inputs. -/
  | close
  /-- The presentation layer takes an effect. -/
  | take
  /-- The shutdown signal changes. -/
  | signal (raised : Bool)
  /-- Nobody can change the shutdown signal any more. -/
  | dropSignal
  /-- The presentation layer stops listening. -/
  | stopListening

/-- The run with its shutdown signal changed. -/
def withShutdown (run : PipelineRun) (shutdown : Shutdown) : PipelineRun :=
  { run with sink := { run.sink with shutdown } }

/-- The run after a move, `none` if the move is not possible. -/
def move (settings : PipelineSettings) (run : PipelineRun) : Move → Option PipelineRun
  | .step task => run.step settings task
  | .answer call server => some (run.hear call server)
  | .advance milliseconds => some { run with now := run.now + milliseconds }
  | .send input =>
    if run.pipeline.running && run.pipeline.inputsOpen && run.pipeline.hasPlace then
      some { run with pipeline := run.pipeline.send input }
    else none
  | .close => some { run with pipeline := { run.pipeline with inputsOpen := false } }
  | .take => run.sink.take?.map fun (_, sink) => { run with sink }
  | .signal raised => some (run.withShutdown { run.sink.shutdown with raised })
  | .dropSignal => some (run.withShutdown { run.sink.shutdown with orphaned := true })
  | .stopListening => some { run with sink := { run.sink with listening := false } }

/-- The run after a series of moves, `none` if one of them is not possible. -/
def moves (settings : PipelineSettings) (run : PipelineRun) : List Move → Option PipelineRun
  | [] => some run
  | move :: rest => (run.move settings move).bind fun next => next.moves settings rest

end PipelineRun

end WalletTopUp
