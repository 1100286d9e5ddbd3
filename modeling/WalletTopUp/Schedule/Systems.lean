import WalletTopUp.Schedule.Basic
import WalletTopUp.Session.Run

/-!
# What can be scheduled

Sessions, pipelines, single dialogues and readers of a watch as systems that a schedule carries on.
-/

namespace WalletTopUp

/-! ## Sessions and pipelines -/

/-- The instants at which the timers of a pipeline are due. -/
def Pipeline.timers (pipeline : Pipeline) : List Instant :=
  if pipeline.running then pipeline.debouncer.deadline.toList else []

/-- A session as a system. -/
def SessionRun.system (settings : SessionSettings) : Schedule.System SessionRun TaskName where
  tasks := [.session, .pipeline, .setup, .conversion, .bonus, .limits, .payment]
  step := fun task run => run.step settings task
  calls := fun run => run.calls.map fun call => (call.time, call.request)
  hear := SessionRun.hear
  now := SessionRun.now
  advanceTo := fun instant run => { run with now := instant }
  timers := fun run =>
    let ticks := match run.session.payment with
      | some (.following _ watch) => (watch.ticker.map Ticker.next).toList
      | _ => []
    run.pipeline.timers ++ ticks

/-- A pipeline on its own as a system. -/
def PipelineRun.system (settings : PipelineSettings) : Schedule.System PipelineRun TaskName where
  tasks := [.pipeline, .conversion, .bonus, .limits]
  step := fun task run => run.step settings task
  calls := fun run => run.calls.map fun call => (call.time, call.request)
  hear := PipelineRun.hear
  now := PipelineRun.now
  advanceTo := fun instant run => { run with now := instant }
  timers := fun run => run.pipeline.timers

/-! ## Single dialogues -/

/-- A dialogue on its own. -/
structure DialogueRun (α : Type) where
  now : Instant := 0
  exchange : Exchange α
  calls : List Call := []

/-- A dialogue on its own as a system. -/
def DialogueRun.system (α : Type) : Schedule.System (DialogueRun α) Unit where
  tasks := [()]
  step := fun _ run => run.exchange.ask?.map fun (request, resume) =>
    { run with
      exchange := resume run.calls.length
      calls := run.calls ++ [⟨run.now, request⟩] }
  calls := fun run => run.calls.map fun call => (call.time, call.request)
  hear := fun call server run => { run with exchange := run.exchange.hear call server }
  now := DialogueRun.now
  advanceTo := fun instant run => { run with now := instant }
  timers := fun _ => []

/-! ## Reading a watch -/

/-- A watch and what has been read from it. -/
structure WatchRun where
  now : Instant := 0
  watch : Watch := {}
  /-- Whether somebody is reading. -/
  reading : Bool := false
  /-- The update read last. -/
  update : Option TransactionUpdate := none
  /-- Whether the end of the updates has been read. -/
  ended : Bool := false
  calls : List Call := []

/-- A watch that is read as a system.  Reading stops with each update. -/
def WatchRun.system (settings : Watch.Settings) : Schedule.System WatchRun Unit where
  tasks := [()]
  step := fun _ run =>
    if !run.reading then none
    else match run.watch.ask? with
      | some (request, resume) =>
        some { run with
          watch := resume run.calls.length
          calls := run.calls ++ [⟨run.now, request⟩] }
      | none =>
        match run.watch.next settings run.now with
        | .idle => none
        | .moved watch => some { run with watch }
        | .delivered update watch =>
          some { run with watch, update := some update, reading := false }
        | .ended => some { run with ended := true, reading := false }
  calls := fun run => run.calls.map fun call => (call.time, call.request)
  hear := fun call server run => { run with watch := run.watch.hear call server }
  now := WatchRun.now
  advanceTo := fun instant run => { run with now := instant }
  timers := fun run => (run.watch.ticker.map Ticker.next).toList

end WalletTopUp
