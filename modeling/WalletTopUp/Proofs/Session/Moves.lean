import WalletTopUp.Proofs.Pipeline.Turn
import WalletTopUp.Session.Run

/-!
# Moves of a screen

Everything that can happen to a screen: the session's own task takes a step
(`SessionRun.OwnStep`), or something else happens beside it (`SessionRun.MoveStep`).  The pipeline
of a screen makes its turns in these moves, so what holds of every pipeline holds of the pipeline of
every screen (`SessionRun.reaches_turns`).
-/

namespace WalletTopUp

namespace Sink

variable {σ : Type}

/-- Taking an effect changes nothing but how many have been taken. -/
theorem eq_of_take? {sink later : Sink σ} {effect : Effect}
    (taken : sink.take? = some (effect, later)) :
    later = { sink with taken := sink.taken + 1 } := by
  unfold take? at taken
  split at taken
  · cases taken
  · split at taken
    · cases taken
    · cases taken
      rfl

/-- Taking an effect leaves the signal to shut down. -/
theorem shutdown_of_take? {sink later : Sink σ} {effect : Effect}
    (taken : sink.take? = some (effect, later)) : later.shutdown = sink.shutdown := by
  rw [eq_of_take? taken]

/-- Taking an effect leaves what has been put into the queue. -/
theorem accepted_of_take? {sink later : Sink σ} {effect : Effect}
    (taken : sink.take? = some (effect, later)) : later.accepted = sink.accepted := by
  rw [eq_of_take? taken]

variable [BEq σ]

/-- Sending an effect leaves the signal to shut down. -/
@[simp] theorem shutdown_emit (sink : Sink σ) (sender : σ) (effect : Effect) :
    (sink.emit sender effect).2.shutdown = sink.shutdown := by
  unfold emit
  split
  · rfl
  · split <;> rfl

end Sink

namespace SessionRun

/-- What has happened to a screen, the latest first. -/
abbrev History : Type := List (Moment SessionRun Move)

/-- The session goes about its business: it has not ended, and nobody wants it to. -/
structure IsOpen (run : SessionRun) : Prop where
  phase : run.session.phase = .running
  up : run.sink.shutdown.isDown = false

/-! ## The session's own task -/

/-- Everything that a step of the session's own task can do. -/
inductive OwnStep (settings : SessionSettings) (run : SessionRun) : SessionRun → Prop where
  | closes
      (phase : run.session.phase = .running)
      (free : run.session.duties = [])
      (down : run.sink.shutdown.isDown = true) :
      OwnStep settings run
        { run with
          sink := run.sink.forget .payment
          pipeline := { run.pipeline with inputsOpen := false }
          session := { run.session with setup := .over, payment := none, phase := .closing } }
  | rejects {error : SetupError}
      (isOpen : run.IsOpen)
      (free : run.session.duties = [])
      (loaded : run.session.setup = .loaded (.error error)) :
      OwnStep settings run { run with session := { run.session with setup := .over } }
  | setsUp {methods : List PaymentMethod} {money : Money}
      (isOpen : run.IsOpen)
      (free : run.session.duties = [])
      (loaded : run.session.setup = .loaded (.ok (methods, money))) :
      OwnStep settings run
        { run with
          session := { run.session with
            setup := .over
            methods := settings.gate.filterSupported methods
            duties := Session.setupDuties (settings.gate.filterSupported methods) money } }
  | event {event : SessionEvent} {rest : List SessionEvent}
      (isOpen : run.IsOpen)
      (free : run.session.duties = [])
      (notLoaded : ∀ result, run.session.setup ≠ .loaded result)
      (waiting : run.session.events = event :: rest) :
      OwnStep settings run
        { run with
          session := { run.session with
            events := rest
            duties := run.session.eventDuties settings run.pipeline.state event } }
  | drops {input : AmountInput} {rest : List SessionDuty}
      (phase : run.session.phase = .running)
      (head : run.session.duties = .forward input :: rest)
      (lost : run.sink.shutdown.isDown = true ∨ run.pipeline.running = false) :
      OwnStep settings run { run with session := { run.session with duties := rest } }
  | forwards {input : AmountInput} {rest : List SessionDuty}
      (isOpen : run.IsOpen)
      (head : run.session.duties = .forward input :: rest)
      (running : run.pipeline.running = true) :
      OwnStep settings run
        { run with
          session := { run.session with duties := rest }
          pipeline := run.pipeline.send input }
  | waits {effect : Effect} {rest : List SessionDuty}
      (phase : run.session.phase = .running)
      (head : run.session.duties = .emit effect :: rest) :
      OwnStep settings run { run with sink := (run.sink.emit .session effect).2 }
  | tells {effect : Effect} {rest : List SessionDuty}
      (phase : run.session.phase = .running)
      (head : run.session.duties = .emit effect :: rest) :
      OwnStep settings run
        { run with
          session := { run.session with duties := rest }
          sink := (run.sink.emit .session effect).2 }
  | pays {job : PaymentJob} {rest : List SessionDuty}
      (phase : run.session.phase = .running)
      (head : run.session.duties = .pay job :: rest) :
      OwnStep settings run
        { run with
          session := { run.session with
            duties := rest
            payment := some (.submitting (.ready job.dialogue)) } }
  | ends
      (closing : run.session.phase = .closing)
      (stopped : run.pipeline.running = false) :
      OwnStep settings run { run with session := { run.session with phase := .ended } }

variable {settings : SessionSettings} {run next : SessionRun} {event : Move}

/-- What a free session takes is a step of its own. -/
theorem ownStep_of_takeNext
    (phase : run.session.phase = .running)
    (free : run.session.duties = [])
    (took : run.takeNext settings = some next) : OwnStep settings run next := by
  simp only [takeNext] at took
  split at took
  · next down =>
      cases took
      exact .closes phase free down
  · next up =>
      have isOpen : run.IsOpen := ⟨phase, Bool.eq_false_iff.mpr up⟩
      split at took
      · next loaded =>
          split at took
          · cases took
            exact .rejects isOpen free loaded
          · cases took
            exact .setsUp isOpen free loaded
      · cases took
      · next event rest waiting notLoaded =>
          cases took
          exact .event isOpen free notLoaded waiting

/-- What a busy session does is a step of its own. -/
theorem ownStep_of_perform {duty : SessionDuty} {rest : List SessionDuty}
    (phase : run.session.phase = .running)
    (head : run.session.duties = duty :: rest)
    (performed : run.perform duty rest = some next) : OwnStep settings run next := by
  cases duty with
  | forward input =>
      simp only [perform] at performed
      split at performed
      · next lost =>
          cases performed
          refine .drops phase head ?_
          simpa only [Bool.or_eq_true, Bool.not_eq_true'] using lost
      · next kept =>
          split at performed
          · cases performed
            simp only [Bool.or_eq_true, Bool.not_eq_true', not_or, Bool.not_eq_true,
              Bool.not_eq_false] at kept
            exact .forwards ⟨phase, kept.1⟩ head kept.2
          · cases performed
  | emit effect =>
      simp only [perform] at performed
      split at performed
      · next _ later delivery =>
          split at performed
          · cases performed
          · cases performed
            obtain rfl : (run.sink.emit .session effect).2 = later := congrArg Prod.snd delivery
            exact .waits phase head
      · next _ later _ delivery =>
          cases performed
          obtain rfl : (run.sink.emit .session effect).2 = later := congrArg Prod.snd delivery
          exact .tells phase head
  | pay job =>
      cases performed
      exact .pays phase head

/-- A step of the session is one of these. -/
theorem ownStep_of_stepSession (stepped : run.stepSession settings = some next) :
    OwnStep settings run next := by
  simp only [stepSession] at stepped
  split at stepped
  · cases stepped
  · next closing =>
      split at stepped
      · cases stepped
      · next stopped =>
          cases stepped
          exact .ends closing (Bool.eq_false_iff.mpr stopped)
  · next phase =>
      split at stepped
      · next free => exact ownStep_of_takeNext phase free stepped
      · next duty rest head => exact ownStep_of_perform phase head stepped

/-! ## Everything else -/

/-- The run after a call has been made. -/
def calling (run called : SessionRun) (request : Request) : SessionRun :=
  { called with calls := run.calls ++ [⟨run.now, request⟩] }

/-- Everything that a move can do. -/
inductive MoveStep (settings : SessionSettings) (run : SessionRun) : Move → SessionRun → Prop where
  | own {next : SessionRun} (step : OwnStep settings run next) :
      MoveStep settings run (.step .session) next
  | pipeline {pipeline : Pipeline} {sink : Sink TaskName}
      (stepped : run.pipeline.step settings.pipeline run.now run.sink = some (pipeline, sink)) :
      MoveStep settings run (.step .pipeline) { run with pipeline, sink }
  | askPipeline {task : TaskName} {request : Request} {resume : CallId → Pipeline}
      (asks : run.pipeline.ask? task = some (request, resume)) :
      MoveStep settings run (.step task)
        (run.calling { run with pipeline := resume run.calls.length } request)
  | endPipeline {task : TaskName} {pipeline : Pipeline}
      (silent : run.pipeline.ask? task = none)
      (finished : run.pipeline.finish task = some pipeline) :
      MoveStep settings run (.step task) { run with pipeline }
  | askMethods {methods : Exchange (Except ServiceError (List PaymentMethod))}
      {currency : Exchange ConversionResult} {request : Request}
      {resume : CallId → Exchange (Except ServiceError (List PaymentMethod))}
      (loading : run.session.setup = .loading methods currency)
      (asks : methods.ask? = some (request, resume)) :
      MoveStep settings run (.step .setup)
        (run.calling
          { run with
            session := { run.session with
              setup := .loading (resume run.calls.length) currency } } request)
  | askCurrency {methods : Exchange (Except ServiceError (List PaymentMethod))}
      {currency : Exchange ConversionResult} {request : Request}
      {resume : CallId → Exchange ConversionResult}
      (loading : run.session.setup = .loading methods currency)
      (silent : methods.ask? = none)
      (asks : currency.ask? = some (request, resume)) :
      MoveStep settings run (.step .setup)
        (run.calling
          { run with
            session := { run.session with
              setup := .loading methods (resume run.calls.length) } } request)
  | endSetup {methods : Exchange (Except ServiceError (List PaymentMethod))}
      {currency : Exchange ConversionResult}
      {foundMethods : Except ServiceError (List PaymentMethod)} {foundCurrency : ConversionResult}
      (loading : run.session.setup = .loading methods currency)
      (overMethods : methods.result? = some foundMethods)
      (overCurrency : currency.result? = some foundCurrency) :
      MoveStep settings run (.step .setup)
        { run with
          session := { run.session with
            setup := .loaded (Session.setupResult foundMethods foundCurrency) } }
  | askPayment {exchange : Exchange PaymentResult} {request : Request}
      {resume : CallId → Exchange PaymentResult}
      (submitting : run.session.payment = some (.submitting exchange))
      (asks : exchange.ask? = some (request, resume)) :
      MoveStep settings run (.step .payment)
        (run.calling (run.withPayment (.submitting (resume run.calls.length))) request)
  | askWatch {uid : String} {watch : Watch} {request : Request} {resume : CallId → Watch}
      (following : run.session.payment = some (.following uid watch))
      (asks : watch.ask? = some (request, resume)) :
      MoveStep settings run (.step .payment)
        (run.calling (run.withPayment (.following uid (resume run.calls.length))) request)
  | submits {exchange : Exchange PaymentResult} {result : PaymentResult}
      (submitting : run.session.payment = some (.submitting exchange))
      (ended : exchange.result? = some result) :
      MoveStep settings run (.step .payment) (run.withPayment (Session.afterSubmission result))
  | watches {uid : String} {watch later : Watch}
      (following : run.session.payment = some (.following uid watch))
      (read : watch.next (Session.watchSettings settings uid) run.now = .moved later
        ∨ ∃ update, watch.next (Session.watchSettings settings uid) run.now
            = .delivered update later) :
      MoveStep settings run (.step .payment) (run.withPayment (.following uid later))
  | settles {uid : String} {watch : Watch} {task : PaymentTask}
      (following : run.session.payment = some (.following uid watch))
      (final : task = .ended ∨ ∃ effect, task = .reporting effect) :
      MoveStep settings run (.step .payment) (run.withPayment task)
  | reportWaits {effect : Effect}
      (reporting : run.session.payment = some (.reporting effect)) :
      MoveStep settings run (.step .payment)
        { run with sink := (run.sink.emit .payment effect).2 }
  | reports {effect : Effect}
      (reporting : run.session.payment = some (.reporting effect)) :
      MoveStep settings run (.step .payment)
        { run.withPayment .ended with sink := (run.sink.emit .payment effect).2 }
  | answer {call : CallId} {server : Server} :
      MoveStep settings run (.answer call server) (run.hear call server)
  | advance {milliseconds : Nat} :
      MoveStep settings run (.advance milliseconds) { run with now := run.now + milliseconds }
  | send {event : SessionEvent} :
      MoveStep settings run (.send event)
        { run with session := { run.session with events := run.session.events ++ [event] } }
  | take {effect : Effect} {sink : Sink TaskName} (taken : run.sink.take? = some (effect, sink)) :
      MoveStep settings run .take { run with sink }
  | teardown :
      MoveStep settings run .teardown
        { run with
          sink := { run.sink with shutdown := { run.sink.shutdown with raised := true } } }
  | dropHandle :
      MoveStep settings run .dropHandle
        { run with
          sink := { run.sink with shutdown := { run.sink.shutdown with orphaned := true } } }
  | stopListening :
      MoveStep settings run .stopListening { run with sink := { run.sink with listening := false } }

/-- A call is a move of its task. -/
theorem moveStep_of_ask {task : TaskName} {request : Request} {resume : CallId → SessionRun}
    (asks : run.ask? task = some (request, resume)) :
    MoveStep settings run (.step task) (run.calling (resume run.calls.length) request) := by
  have ofPipeline : ∀ task,
      ((run.pipeline.ask? task).map fun puts =>
        (puts.1, fun call => ({ run with pipeline := puts.2 call } : SessionRun)))
          = some (request, resume) →
        MoveStep settings run (.step task) (run.calling (resume run.calls.length) request) := by
    intro task asks
    obtain ⟨⟨asked, goOn⟩, puts, same⟩ := Option.map_eq_some_iff.mp asks
    cases same
    exact .askPipeline puts
  cases task with
  | setup =>
      simp only [ask?] at asks
      split at asks
      · next methods currency loading =>
          split at asks
          · next puts =>
              cases asks
              exact .askMethods loading puts
          · next silent puts =>
              cases asks
              exact .askCurrency loading silent puts
          · cases asks
      · cases asks
  | payment =>
      simp only [ask?] at asks
      split at asks
      · next exchange submitting =>
          obtain ⟨⟨asked, goOn⟩, puts, same⟩ := Option.map_eq_some_iff.mp asks
          cases same
          exact .askPayment submitting puts
      · next uid watch following =>
          obtain ⟨⟨asked, goOn⟩, puts, same⟩ := Option.map_eq_some_iff.mp asks
          cases same
          exact .askWatch following puts
      · cases asks
  | session => exact ofPipeline .session asks
  | pipeline => exact ofPipeline .pipeline asks
  | conversion => exact ofPipeline .conversion asks
  | bonus => exact ofPipeline .bonus asks
  | limits => exact ofPipeline .limits asks

/-- The end of the setup is a move. -/
theorem moveStep_of_stepSetup (stepped : run.stepSetup = some next) :
    MoveStep settings run (.step .setup) next := by
  simp only [stepSetup] at stepped
  split at stepped
  · next loading =>
      split at stepped
      · next overMethods overCurrency =>
          cases stepped
          exact .endSetup loading overMethods overCurrency
      · cases stepped
  · cases stepped

/-- A step of the payment is a move. -/
theorem moveStep_of_stepPayment (stepped : run.stepPayment settings = some next) :
    MoveStep settings run (.step .payment) next := by
  simp only [stepPayment] at stepped
  split at stepped
  · next submitting =>
      obtain ⟨result, ended, rfl⟩ := Option.map_eq_some_iff.mp stepped
      exact .submits submitting ended
  · next uid watch following =>
      split at stepped
      · cases stepped
      · next later moved =>
          cases stepped
          exact .watches following (.inl moved)
      · next update later delivered =>
          split at stepped
          · cases stepped
            exact .settles following (.inr ⟨_, rfl⟩)
          · cases stepped
            exact .watches following (.inr ⟨update, delivered⟩)
      · cases stepped
        exact .settles following (.inl rfl)
  · next effect reporting =>
      split at stepped
      · next _ later delivery =>
          split at stepped
          · cases stepped
          · cases stepped
            obtain rfl : (run.sink.emit .payment effect).2 = later := congrArg Prod.snd delivery
            exact .reportWaits reporting
      · next _ later _ delivery =>
          cases stepped
          obtain rfl : (run.sink.emit .payment effect).2 = later := congrArg Prod.snd delivery
          exact .reports reporting
  · cases stepped

/-- Every move is one of these. -/
theorem moveStep_of_move (moved : run.move settings event = some next) :
    MoveStep settings run event next := by
  cases event with
  | step task =>
      simp only [move, step] at moved
      split at moved
      · next asks =>
          cases moved
          exact moveStep_of_ask asks
      · next silent =>
          have finishes : ∀ task,
              ((run.pipeline.ask? task).map fun puts =>
                (puts.1, fun call => ({ run with pipeline := puts.2 call } : SessionRun))) = none →
              ((run.pipeline.finish task).map fun pipeline => { run with pipeline }) = some next →
                MoveStep settings run (.step task) next := by
            intro task silent moved
            obtain ⟨pipeline, finished, rfl⟩ := Option.map_eq_some_iff.mp moved
            exact .endPipeline (Option.map_eq_none_iff.mp silent) finished
          cases task with
          | session => exact .own (ownStep_of_stepSession moved)
          | setup => exact moveStep_of_stepSetup moved
          | payment => exact moveStep_of_stepPayment moved
          | pipeline =>
              obtain ⟨⟨pipeline, sink⟩, stepped, rfl⟩ := Option.map_eq_some_iff.mp moved
              exact .pipeline stepped
          | conversion => exact finishes .conversion silent moved
          | bonus => exact finishes .bonus silent moved
          | limits => exact finishes .limits silent moved
  | answer call server =>
      cases moved
      exact .answer
  | advance milliseconds =>
      cases moved
      exact .advance
  | send event =>
      simp only [move] at moved
      split at moved
      · cases moved
        exact .send
      · cases moved
  | take =>
      obtain ⟨⟨effect, sink⟩, taken, rfl⟩ := Option.map_eq_some_iff.mp moved
      exact .take taken
  | teardown =>
      cases moved
      exact .teardown
  | dropHandle =>
      cases moved
      exact .dropHandle
  | stopListening =>
      cases moved
      exact .stopListening

end SessionRun

end WalletTopUp
