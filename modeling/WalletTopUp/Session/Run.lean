import WalletTopUp.Pipeline.Run
import WalletTopUp.Session.Basic

/-!
# Runs of a session

The whole screen: the session, its pipeline, the way to the presentation layer, the calls made so
far and the time.  A run moves by single steps of its tasks, by answers to open calls, by the
passing of time, and by what the presentation layer does.  Every order of these moves is a run; in
which order they come is for the one who runs it.
-/

namespace WalletTopUp

/-- A screen at work. -/
structure SessionRun where
  now : Instant := 0
  sink : Sink TaskName := {}
  pipeline : Pipeline
  session : Session
  /-- All calls in the order in which they were made. -/
  calls : List Call := []

namespace SessionRun

/-- A screen at its start. -/
def start (settings : SessionSettings) : SessionRun :=
  { pipeline := .start settings.pipeline
    session := .start settings }

/-! ## The session's own task -/

/-- Take what is most urgent: a shutdown, the result of the setup, an event. -/
def takeNext (settings : SessionSettings) (run : SessionRun) : Option SessionRun :=
  if run.sink.shutdown.isDown then
    some { run with
      sink := run.sink.forget .payment
      pipeline := { run.pipeline with inputsOpen := false }
      session := { run.session with setup := .over, payment := none, phase := .closing } }
  else match run.session.setup, run.session.events with
    | .loaded result, _ =>
      match result with
      | .error _ => some { run with session := { run.session with setup := .over } }
      | .ok (methods, money) =>
        let supported := settings.gate.filterSupported methods
        some { run with
          session := { run.session with
            setup := .over
            methods := supported
            duties := Session.setupDuties supported money } }
    | _, [] => none
    | _, event :: rest =>
      some { run with
        session := { run.session with
          events := rest
          duties := run.session.eventDuties settings run.pipeline.state event } }

/-- Do the next duty of the session, `none` if it has to wait. -/
def perform (run : SessionRun) (duty : SessionDuty) (rest : List SessionDuty) :
    Option SessionRun :=
  let session := { run.session with duties := rest }
  match duty with
  | .forward input =>
    if run.sink.shutdown.isDown || !run.pipeline.running then some { run with session }
    else if run.pipeline.hasPlace then
      some { run with session, pipeline := run.pipeline.send input }
    else none
  | .emit effect =>
    match run.sink.emit .session effect with
    | (.waits, later) =>
      if run.sink.waiting.contains .session then none else some { run with sink := later }
    | (_, later) => some { run with session, sink := later }
  | .pay job =>
    some { run with
      session := { session with payment := some (.submitting (.ready job.dialogue)) } }

/-- One step of the session's own task. -/
def stepSession (settings : SessionSettings) (run : SessionRun) : Option SessionRun :=
  match run.session.phase with
  | .ended => none
  | .closing =>
    if run.pipeline.running then none
    else some { run with session := { run.session with phase := .ended } }
  | .running =>
    match run.session.duties with
    | [] => run.takeNext settings
    | duty :: rest => run.perform duty rest

/-! ## The setup and the payment -/

/-- The end of loading the setup. -/
def stepSetup (run : SessionRun) : Option SessionRun :=
  match run.session.setup with
  | .loading methods currency =>
    match methods.result?, currency.result? with
    | some methods, some currency =>
      some { run with
        session := { run.session with setup := .loaded (Session.setupResult methods currency) } }
    | _, _ => none
  | _ => none

/-- The run with the payment task replaced. -/
def withPayment (run : SessionRun) (task : PaymentTask) : SessionRun :=
  { run with session := { run.session with payment := some task } }

/-- One step of the payment task. -/
def stepPayment (settings : SessionSettings) (run : SessionRun) : Option SessionRun :=
  match run.session.payment with
  | some (.submitting exchange) =>
    exchange.result?.map fun result => run.withPayment (Session.afterSubmission result)
  | some (.following uid watch) =>
    match watch.next (Session.watchSettings settings uid) run.now with
    | .idle => none
    | .moved watch => some (run.withPayment (.following uid watch))
    | .delivered update watch =>
      if update.status.isFinal then
        some (run.withPayment (.reporting (.paymentFinished update.uid update.status)))
      else some (run.withPayment (.following uid watch))
    | .ended => some (run.withPayment .ended)
  | some (.reporting effect) =>
    match run.sink.emit .payment effect with
    | (.waits, later) =>
      if run.sink.waiting.contains .payment then none else some { run with sink := later }
    | (_, later) => some { run.withPayment .ended with sink := later }
  | _ => none

/-! ## Calls -/

/-- The request that a task puts out next. -/
def ask? (run : SessionRun) (task : TaskName) : Option (Request × (CallId → SessionRun)) :=
  match task with
  | .setup =>
    match run.session.setup with
    | .loading methods currency =>
      match methods.ask?, currency.ask? with
      | some (request, resume), _ => some (request, fun call =>
          { run with session := { run.session with setup := .loading (resume call) currency } })
      | none, some (request, resume) => some (request, fun call =>
          { run with session := { run.session with setup := .loading methods (resume call) } })
      | none, none => none
    | _ => none
  | .payment =>
    match run.session.payment with
    | some (.submitting exchange) => exchange.ask?.map fun (request, resume) =>
      (request, fun call => run.withPayment (.submitting (resume call)))
    | some (.following uid watch) => watch.ask?.map fun (request, resume) =>
      (request, fun call => run.withPayment (.following uid (resume call)))
    | _ => none
  | task => (run.pipeline.ask? task).map fun (request, resume) =>
      (request, fun call => { run with pipeline := resume call })

/-- The run after a call is answered. -/
def hear (call : CallId) (server : Server) (run : SessionRun) : SessionRun :=
  { run with
    pipeline := run.pipeline.hear call server
    session := { run.session with
      setup := match run.session.setup with
        | .loading methods currency =>
          .loading (methods.hear call server) (currency.hear call server)
        | other => other
      payment := match run.session.payment with
        | some (.submitting exchange) => some (.submitting (exchange.hear call server))
        | some (.following uid watch) => some (.following uid (watch.hear call server))
        | other => other } }

/-- The calls that are neither answered nor dropped. -/
def openCalls (run : SessionRun) : List (CallId × Request) :=
  let setup := match run.session.setup with
    | .loading methods currency => methods.openCalls ++ currency.openCalls
    | _ => []
  let payment := match run.session.payment with
    | some (.submitting exchange) => exchange.openCalls
    | some (.following _ watch) => watch.openCalls
    | _ => []
  setup ++ run.pipeline.openCalls ++ payment

/-! ## Moves -/

/-- One step of a task: a call, if it wants to make one, and its own step otherwise. -/
def step (settings : SessionSettings) (task : TaskName) (run : SessionRun) : Option SessionRun :=
  match run.ask? task with
  | some (request, resume) =>
    let called := resume run.calls.length
    some { called with calls := run.calls ++ [⟨run.now, request⟩] }
  | none =>
    match task with
    | .session => run.stepSession settings
    | .setup => run.stepSetup
    | .payment => run.stepPayment settings
    | .pipeline =>
      (run.pipeline.step settings.pipeline run.now run.sink).map fun (pipeline, sink) =>
        { run with pipeline, sink }
    | task => (run.pipeline.finish task).map fun pipeline => { run with pipeline }

/-- What can happen in a run. -/
inductive Move where
  /-- A task takes a step. -/
  | step (task : TaskName)
  /-- A call is answered. -/
  | answer (call : CallId) (server : Server)
  /-- Time passes. -/
  | advance (milliseconds : Nat)
  /-- The presentation layer reports an event. -/
  | send (event : SessionEvent)
  /-- The presentation layer takes an effect. -/
  | take
  /-- The screen is torn down. -/
  | teardown
  /-- Whoever could tear the screen down is gone. -/
  | dropHandle
  /-- The presentation layer stops listening. -/
  | stopListening

/-- Whether there is a place for another event. -/
def hasPlace (run : SessionRun) : Bool := run.session.events.length < queueCapacity

/-- The run after a move, `none` if the move is not possible. -/
def move (settings : SessionSettings) (run : SessionRun) : Move → Option SessionRun
  | .step task => run.step settings task
  | .answer call server => some (run.hear call server)
  | .advance milliseconds => some { run with now := run.now + milliseconds }
  | .send event =>
    if run.hasPlace && run.session.phase != .ended then
      some { run with session := { run.session with events := run.session.events ++ [event] } }
    else none
  | .take => run.sink.take?.map fun (_, sink) => { run with sink }
  | .teardown =>
    some { run with
      sink := { run.sink with shutdown := { run.sink.shutdown with raised := true } } }
  | .dropHandle =>
    some { run with
      sink := { run.sink with shutdown := { run.sink.shutdown with orphaned := true } } }
  | .stopListening => some { run with sink := { run.sink with listening := false } }

/-- The run after a series of moves, `none` if one of them is not possible. -/
def moves (settings : SessionSettings) (run : SessionRun) : List Move → Option SessionRun
  | [] => some run
  | move :: rest => (run.move settings move).bind fun next => next.moves settings rest

/-- Whether the presentation layer has seen the last effect it will ever see. -/
def isClosed (run : SessionRun) : Bool :=
  run.session.phase == .ended && run.sink.queued.isEmpty

end SessionRun

end WalletTopUp
