import WalletTopUp.Proofs.Pipeline.Background
import WalletTopUp.Proofs.Pipeline.Frame
import WalletTopUp.Proofs.Session.Moves

/-!
# The pipeline of a screen

The turns that the pipeline of a screen makes, read off the history of the screen
(`SessionRun.turns`), and what the session and its pipeline always agree on: a shutdown is never
taken back, and a pipeline stops only because of one (`SessionRun.isDown_of_stopped`).
-/

namespace WalletTopUp

namespace Pipeline

variable {settings : PipelineSettings} {pipeline next : Pipeline}

/-- A step of the pipeline leaves the signal to shut down. -/
theorem shutdown_of_step {now : Instant} {sink later : Sink TaskName}
    (stepped : pipeline.step settings now sink = some (next, later)) :
    later.shutdown = sink.shutdown := by
  simp only [step] at stepped
  split at stepped
  · cases stepped
  · split at stepped
    · obtain ⟨_, _, same⟩ := Option.map_eq_some_iff.mp stepped
      cases same
      rfl
    · next effect rest _ =>
        have kept := sink.shutdown_emit TaskName.pipeline effect
        split at stepped
        · next _ _ delivery =>
            split at stepped
            · cases stepped
            · cases stepped
              rwa [delivery] at kept
        · next _ _ _ delivery =>
            cases stepped
            rwa [delivery] at kept
    · cases stepped
      rfl

/-- Nothing but the session closes the inputs, and only an order to stop stops the pipeline. -/
theorem ownStep_stops {now : Instant} {sink : Sink TaskName}
    (step : OwnStep settings now sink pipeline next) :
    next.inputsOpen = pipeline.inputsOpen
      ∧ (next.running = pipeline.running
        ∨ sink.shutdown.isDown = true ∨ pipeline.inputsOpen = false) := by
  cases step with
  | stops _ ending => exact ⟨rfl, .inr ending⟩
  | input _ _ | deadline _ _ | completion _ _ | waits _ _ | tells _ _ => exact ⟨rfl, .inl rfl⟩
  | @performs duty rest _ _ =>
      have done := performed settings now pipeline duty rest
      exact ⟨done.inputsOpen, .inl done.running⟩

/-- A background task neither closes the inputs nor ends the pipeline. -/
theorem backgroundStep_stops {turn : Turn} (step : BackgroundStep pipeline turn next)
    (other : turn ≠ .close) :
    next.inputsOpen = pipeline.inputsOpen ∧ next.running = pipeline.running := by
  cases step with
  | close => exact (other rfl).elim
  | _ => exact ⟨rfl, rfl⟩

end Pipeline

namespace SessionRun

variable {settings : SessionSettings} {start run next : SessionRun} {event : Move} {past : History}

/-! ## Turns -/

/-- The turn of the pipeline that a move makes, if it makes one. -/
def turn? (run : SessionRun) : Move → Option Pipeline.Turn
  | .step .session =>
    match run.session.phase, run.session.duties with
    | .running, [] => if run.sink.shutdown.isDown then some .close else none
    | .running, .forward input :: _ =>
      if run.sink.shutdown.isDown || !run.pipeline.running then none else some (.send input)
    | _, _ => none
  | .step .pipeline => some (.own run.now run.sink)
  | .step .setup | .step .payment => none
  | .step task =>
    match run.pipeline.ask? task with
    | some _ => some (.ask task run.calls.length)
    | none => some (.finish task)
  | .answer call server => some (.hear call server)
  | _ => none

/-- The turns that the pipeline has made in the history of its screen. -/
def turns (past : History) : Pipeline.History :=
  past.filterMap fun moment =>
    (moment.before.turn? moment.event).map (Moment.mk moment.before.pipeline)

/-- A move in which the pipeline makes no turn leaves the turns. -/
theorem turns_cons_none {moment : Moment SessionRun Move}
    (hidden : moment.before.turn? moment.event = none) :
    turns (moment :: past) = turns past :=
  List.filterMap_cons_none (by rw [hidden]; rfl)

/-- A move in which the pipeline makes a turn adds it to the turns. -/
theorem turns_cons_some {moment : Moment SessionRun Move} {turn : Pipeline.Turn}
    (shown : moment.before.turn? moment.event = some turn) :
    turns (moment :: past) = ⟨moment.before.pipeline, turn⟩ :: turns past :=
  List.filterMap_cons_some (by rw [shown]; rfl)

/-- The turns of a history are those of its parts, one after another. -/
theorem turns_append (later past : History) : turns (later ++ past) = turns later ++ turns past :=
  List.filterMap_append

/-- The turns of what happened earlier come earlier. -/
theorem turns_suffix {earlier past : History} (suffix : earlier <:+ past) :
    turns earlier <:+ turns past := suffix.filterMap _

-- Only the lemmas that follow look at its equations: the rest goes by what they say.
attribute [local simp] turn?

/-- A free session that takes an event makes no turn of the pipeline. -/
theorem turn?_of_free (isOpen : run.IsOpen) (free : run.session.duties = []) :
    run.turn? (.step .session) = none := by
  simp [isOpen.phase, free, isOpen.up]

/-- A free session that is torn down closes the pipeline's inputs. -/
theorem turn?_of_closes (phase : run.session.phase = .running)
    (free : run.session.duties = [])
    (down : run.sink.shutdown.isDown = true) : run.turn? (.step .session) = some .close := by
  simp [phase, free, down]

/-- A session that does not hand over an input makes no turn of the pipeline. -/
theorem turn?_of_head {duty : SessionDuty} {rest : List SessionDuty}
    (phase : run.session.phase = .running)
    (head : run.session.duties = duty :: rest)
    (other : ∀ input, duty ≠ .forward input) : run.turn? (.step .session) = none := by
  cases duty with
  | forward input => exact (other input rfl).elim
  | emit _ | pay _ => simp [phase, head]

/-- An input that is lost makes no turn of the pipeline. -/
theorem turn?_of_drops {input : AmountInput} {rest : List SessionDuty}
    (phase : run.session.phase = .running)
    (head : run.session.duties = .forward input :: rest)
    (lost : run.sink.shutdown.isDown = true ∨ run.pipeline.running = false) :
    run.turn? (.step .session) = none := by
  have given : (run.sink.shutdown.isDown || !run.pipeline.running) = true := by
    rcases lost with down | stopped
    · rw [down, Bool.true_or]
    · rw [stopped, Bool.not_false, Bool.or_true]
  simp only [turn?, phase, head, given, if_true]

/-- An input that is handed over is a turn of the pipeline. -/
theorem turn?_of_forwards {input : AmountInput} {rest : List SessionDuty}
    (isOpen : run.IsOpen)
    (head : run.session.duties = .forward input :: rest)
    (running : run.pipeline.running = true) :
    run.turn? (.step .session) = some (.send input) := by
  simp [isOpen.phase, head, isOpen.up, running]

/-- A session that waits for the pipeline's end makes no turn of it. -/
theorem turn?_of_closing (closing : run.session.phase = .closing) :
    run.turn? (.step .session) = none := by
  simp [closing]

/-- The turn that a step of the session's own task makes. -/
theorem turn_of_ownStep (step : OwnStep settings run next) :
    (run.turn? (.step .session) = none ∧ next.pipeline = run.pipeline)
      ∨ (run.turn? (.step .session) = some .close
        ∧ next.pipeline = { run.pipeline with inputsOpen := false })
      ∨ ∃ input, run.turn? (.step .session) = some (.send input)
        ∧ next.pipeline = run.pipeline.send input := by
  cases step with
  | closes phase free down => exact .inr (.inl ⟨turn?_of_closes phase free down, rfl⟩)
  | rejects isOpen free _ | setsUp isOpen free _ | event isOpen free _ _ =>
      exact .inl ⟨turn?_of_free isOpen free, rfl⟩
  | drops phase head lost => exact .inl ⟨turn?_of_drops phase head lost, rfl⟩
  | forwards isOpen head running =>
      exact .inr (.inr ⟨_, turn?_of_forwards isOpen head running, rfl⟩)
  | waits phase head | tells phase head | pays phase head =>
      exact .inl ⟨turn?_of_head phase head (by simp), rfl⟩
  | ends closing _ => exact .inl ⟨turn?_of_closing closing, rfl⟩

/-- A background task of the pipeline. -/
def isBackground : TaskName → Bool
  | .conversion | .bonus | .limits => true
  | _ => false

/-- Of the pipeline only background tasks make calls. -/
theorem isBackground_of_ask {pipeline : Pipeline} {task : TaskName}
    {answer : Request × (CallId → Pipeline)}
    (asks : pipeline.ask? task = some answer) : isBackground task = true := by
  cases task with
  | conversion | bonus | limits => rfl
  | session | pipeline | setup | payment => cases asks

/-- Of the pipeline only background tasks finish. -/
theorem isBackground_of_finish {pipeline next : Pipeline} {task : TaskName}
    (finished : pipeline.finish task = some next) : isBackground task = true := by
  cases task with
  | conversion | bonus | limits => rfl
  | session | pipeline | setup | payment => cases finished

/-- A step of a background task is a turn of the pipeline: a call, if it wants to make one, and its
end otherwise. -/
theorem turn?_of_isBackground {task : TaskName} (background : isBackground task = true) :
    run.turn? (.step task) = match run.pipeline.ask? task with
      | some _ => some (.ask task run.calls.length)
      | none => some (.finish task) := by
  cases task with
  | conversion | bonus | limits => rfl
  | session | pipeline | setup | payment => cases background

/-- A move in which the pipeline makes a turn changes it by that turn. -/
theorem turn_of_move {turn : Pipeline.Turn}
    (moved : run.move settings event = some next)
    (shown : run.turn? event = some turn) :
    run.pipeline.turn settings.pipeline turn = some next.pipeline := by
  cases moveStep_of_move moved with
  | own step =>
      rcases turn_of_ownStep step with ⟨hidden, _⟩ | ⟨closes, same⟩ | ⟨input, sends, same⟩
      · cases shown.symm.trans hidden
      · obtain rfl := Option.some.inj (shown.symm.trans closes)
        rw [same]
        rfl
      · obtain rfl := Option.some.inj (shown.symm.trans sends)
        rw [same]
        rfl
  | pipeline stepped =>
      obtain rfl := Option.some.inj shown
      simp only [Pipeline.turn, stepped, Option.map_some]
  | askPipeline asks =>
      rw [turn?_of_isBackground (isBackground_of_ask asks), asks] at shown
      obtain rfl := Option.some.inj shown
      simp only [Pipeline.turn, asks, Option.map_some]
      rfl
  | endPipeline silent finished =>
      rw [turn?_of_isBackground (isBackground_of_finish finished), silent] at shown
      obtain rfl := Option.some.inj shown
      exact finished
  | answer =>
      obtain rfl := Option.some.inj shown
      rfl
  | _ => cases shown

/-- A move in which the pipeline makes no turn leaves it as it is. -/
theorem pipeline_of_move
    (moved : run.move settings event = some next)
    (hidden : run.turn? event = none) : next.pipeline = run.pipeline := by
  cases moveStep_of_move moved with
  | own step =>
      rcases turn_of_ownStep step with ⟨_, same⟩ | ⟨closes, _⟩ | ⟨_, sends, _⟩
      · exact same
      · cases hidden.symm.trans closes
      · cases hidden.symm.trans sends
  | pipeline _ | answer => cases hidden
  | askPipeline asks =>
      rw [turn?_of_isBackground (isBackground_of_ask asks), asks] at hidden
      cases hidden
  | endPipeline silent finished =>
      rw [turn?_of_isBackground (isBackground_of_finish finished), silent] at hidden
      cases hidden
  | _ => rfl

/-- The pipeline of a screen has come to where it is by its turns. -/
theorem reaches_turns (reached : Reaches (SessionRun.move settings) start past run) :
    Reaches (Pipeline.turn settings.pipeline) start.pipeline (turns past) run.pipeline :=
  reached.project SessionRun.pipeline turn?
    (fun _ _ _ _ moved shown => turn_of_move moved shown)
    (fun _ _ _ moved hidden => pipeline_of_move moved hidden)

/-! ## The shutdown -/

/-- A step of the session leaves the signal to shut down. -/
theorem shutdown_of_ownStep (step : OwnStep settings run next) :
    next.sink.shutdown = run.sink.shutdown := by
  cases step with
  | waits _ _ | tells _ _ => exact Sink.shutdown_emit _ _ _
  | _ => rfl

/-- A shutdown is never taken back. -/
theorem isDown_of_move (moved : run.move settings event = some next)
    (down : run.sink.shutdown.isDown = true) : next.sink.shutdown.isDown = true := by
  cases moveStep_of_move moved with
  | own step => exact shutdown_of_ownStep step ▸ down
  | pipeline stepped => exact Pipeline.shutdown_of_step stepped ▸ down
  | reportWaits _ | reports _ =>
      exact (congrArg Shutdown.isDown (Sink.shutdown_emit _ _ _)).trans down
  | take taken => exact Sink.shutdown_of_take? taken ▸ down
  | teardown => exact Bool.true_or _
  | dropHandle => exact Bool.or_true _
  | _ => exact down

/-- The pipeline stops only after a shutdown. -/
theorem isDown_of_stopped
    (reached : Reaches (SessionRun.move settings) (SessionRun.start settings) past run)
    (stopped : run.pipeline.running = false ∨ run.pipeline.inputsOpen = false) :
    run.sink.shutdown.isDown = true := by
  induction reached with
  | start => rcases stopped with same | same <;> cases same
  | @step past middle next event _ moved ih =>
      by_cases down : middle.sink.shutdown.isDown = true
      · exact isDown_of_move moved down
      · refine (down (ih ?_)).elim
        cases moveStep_of_move moved with
        | own step =>
            cases step with
            | closes _ _ given => exact (down given).elim
            | _ => exact stopped
        | pipeline stepped =>
            obtain ⟨inputs, running⟩ :=
              Pipeline.ownStep_stops (Pipeline.ownStep_of_step stepped).2
            rw [inputs] at stopped
            rcases running with running | given | closed
            · rw [running] at stopped
              exact stopped
            · exact (down given).elim
            · exact .inr closed
        | @askPipeline task _ resume asks =>
            have turned : middle.pipeline.turn settings.pipeline (.ask task middle.calls.length)
                = some (resume middle.calls.length) := Pipeline.turn_ask asks _
            obtain ⟨inputs, running⟩ :=
              Pipeline.backgroundStep_stops (Pipeline.backgroundStep_of_ask turned) (by simp)
            rw [← inputs, ← running]
            exact stopped
        | @endPipeline task pipeline _ finished =>
            have turned : middle.pipeline.turn settings.pipeline (.finish task) = some pipeline :=
              finished
            obtain ⟨inputs, running⟩ :=
              Pipeline.backgroundStep_stops (Pipeline.backgroundStep_of_finish turned)
                (by simp)
            rw [← inputs, ← running]
            exact stopped
        | _ => exact stopped

/-- As long as the session is open, its pipeline runs. -/
theorem running_of_isOpen
    (reached : Reaches (SessionRun.move settings) (SessionRun.start settings) past run)
    (isOpen : run.IsOpen) : run.pipeline.running = true := by
  cases running : run.pipeline.running with
  | true => rfl
  | false => cases isOpen.up.symm.trans (isDown_of_stopped reached (.inl running))

end SessionRun

end WalletTopUp
