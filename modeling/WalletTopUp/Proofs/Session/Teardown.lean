import WalletTopUp.Proofs.Pipeline.Stopping
import WalletTopUp.Proofs.Session.Legitimacy

/-!
# The end of a screen

From the moment in which a screen is to be torn down, whatever it is doing then, nothing more is put
into the queue of effects, and neither the session nor its pipeline waits for anybody to read them.
Both come to their end after a number of steps that is known from the start
(`SessionRun.endsWithin`), and once the session has ended no task of the screen takes another step
(`SessionRun.silent_after_teardown`).
-/

namespace WalletTopUp

namespace SessionRun

variable {settings : SessionSettings} {run next later : SessionRun} {event : Move}
  {past future : History}

/-! ## On the way to the end -/

/-- The most steps that the session's own task takes until it has ended, once it is told to. -/
def sessionEndsWithin (session : Session) : Nat :=
  match session.phase with
  | .running => session.duties.length + 2
  | .closing => 1
  | .ended => 0

/-- The most steps that the session and its pipeline take together until both have ended, once they
have been told to. -/
def endsWithin (run : SessionRun) : Nat :=
  sessionEndsWithin run.session + run.pipeline.stopsWithin

/-- A session that has been told to end never waits, but for its pipeline: it drops what it has to
hand on and to tell, and it comes closer to its end. -/
theorem exists_stepSession_of_isDown (settings : SessionSettings)
    (unfinished : run.session.phase = .running
      ∨ run.session.phase = .closing ∧ run.pipeline.running = false)
    (down : run.sink.shutdown.isDown = true) :
    ∃ next, run.step settings .session = some next
      ∧ sessionEndsWithin next.session < sessionEndsWithin run.session
      ∧ next.pipeline.stopsWithin = run.pipeline.stopsWithin := by
  have step : run.step settings .session = run.stepSession settings := rfl
  rw [step]
  rcases unfinished with phase | ⟨phase, stopped⟩
  -- A session only looks at the shutdown once it has done what it took before.
  · cases duties : run.session.duties with
    | nil =>
        refine ⟨{ run with
            sink := run.sink.forget .payment
            pipeline := { run.pipeline with inputsOpen := false }
            session := { run.session with setup := .over, payment := none, phase := .closing } },
          ?_, ?_, rfl⟩
        · simp only [stepSession, phase, duties, takeNext, down, if_true]
        · simp only [sessionEndsWithin, phase, duties]
          decide
    | cons duty rest =>
        have less : ∀ session : Session, session.phase = .running → session.duties = rest →
            sessionEndsWithin session < sessionEndsWithin run.session := by
          intro session running same
          simp only [sessionEndsWithin, phase, running, same, duties, List.length_cons]
          exact Nat.lt_succ_self _
        cases duty with
        | forward input =>
            refine ⟨{ run with session := { run.session with duties := rest } }, ?_,
              less _ phase rfl, rfl⟩
            simp only [stepSession, phase, duties, perform, down, Bool.true_or, if_true]
        | emit effect =>
            refine ⟨{ run with
                session := { run.session with duties := rest }
                sink := run.sink.forget .session }, ?_, less _ phase rfl, rfl⟩
            simp only [stepSession, phase, duties, perform,
              run.sink.emit_of_isDown .session effect down]
        | pay job =>
            refine ⟨{ run with
                session := { run.session with
                  duties := rest
                  payment := some (.submitting (.ready job.dialogue)) } },
              ?_, less _ phase rfl, rfl⟩
            simp only [stepSession, phase, duties, perform]
  · refine ⟨{ run with session := { run.session with phase := .ended } }, ?_, ?_, rfl⟩
    · simp only [stepSession, phase, stopped, Bool.false_eq_true, if_false]
    · simp only [sessionEndsWithin, phase]
      decide

/-- Until the session has ended, it or its pipeline can take a step. -/
theorem exists_step_of_isDown (settings : SessionSettings)
    (down : run.sink.shutdown.isDown = true)
    (unfinished : run.session.phase ≠ .ended) :
    (run.step settings .session).isSome = true ∨ (run.step settings .pipeline).isSome = true := by
  cases running : run.pipeline.running with
  | true =>
      obtain ⟨pipeline, sink, stepped, _⟩ :=
        Pipeline.exists_step_of_isDown settings.pipeline run.now running down
      refine .inr ?_
      change ((run.pipeline.step settings.pipeline run.now run.sink).map _).isSome = true
      rw [stepped]
      rfl
  | false =>
      have goesOn : run.session.phase = .running
          ∨ run.session.phase = .closing ∧ run.pipeline.running = false := by
        cases phase : run.session.phase with
        | running => exact .inl rfl
        | closing => exact .inr ⟨rfl, running⟩
        | ended => exact (unfinished phase).elim
      obtain ⟨next, stepped, _⟩ := exists_stepSession_of_isDown settings goesOn down
      exact .inl (Option.isSome_of_eq_some stepped)

/-- The steps of the session's and the pipeline's own task. -/
def isMain : Move → Bool
  | .step .session | .step .pipeline => true
  | _ => false

/-- A background task is neither the session's own nor the pipeline's. -/
theorem isMain_of_isBackground {task : TaskName} (background : isBackground task = true) :
    isMain (.step task) = false := by
  cases task with
  | conversion | bonus | limits => rfl
  | session | pipeline | setup | payment => cases background

/-- What a move does to a screen that is to be torn down. -/
structure WindsDown (run : SessionRun) (event : Move) (next : SessionRun) : Prop where
  down : next.sink.shutdown.isDown = true
  accepted : next.sink.accepted = run.sink.accepted
  nearer : next.endsWithin + (if isMain event then 1 else 0) ≤ run.endsWithin

/-- Whatever happens to a screen that is to be torn down winds it down. -/
theorem windsDown_of_move (down : run.sink.shutdown.isDown = true)
    (moved : run.move settings event = some next) : WindsDown run event next := by
  have stays := isDown_of_move moved down
  have dropped : ∀ sender effect, (run.sink.emit sender effect).2.accepted = run.sink.accepted :=
    fun sender effect => by rw [run.sink.emit_of_isDown sender effect down]; rfl
  have beside : ∀ {turn : Pipeline.Turn} {pipeline : Pipeline},
      Pipeline.BackgroundStep run.pipeline turn pipeline →
        sessionEndsWithin run.session + pipeline.stopsWithin ≤ run.endsWithin := fun step =>
    Nat.add_le_add_left (Nat.le_of_eq (Pipeline.stopsWithin_of_backgroundStep step).1) _
  cases moveStep_of_move moved with
  | own step =>
      have goesOn : run.session.phase = .running
          ∨ run.session.phase = .closing ∧ run.pipeline.running = false := by
        cases step with
        | ends closing stopped => exact .inr ⟨closing, stopped⟩
        | closes phase _ _ | drops phase _ _ | waits phase _ | tells phase _ | pays phase _ =>
            exact .inl phase
        | rejects isOpen _ _ | setsUp isOpen _ _ | event isOpen _ _ _ | forwards isOpen _ _ =>
            exact .inl isOpen.phase
      -- There is one step that the session can take, so what is known of that step holds here.
      obtain ⟨next', stepped, less, same⟩ := exists_stepSession_of_isDown settings goesOn down
      obtain rfl := Option.some.inj (stepped.symm.trans moved)
      refine ⟨stays, ?_, ?_⟩
      · cases step with
        | waits _ _ | tells _ _ => exact dropped _ _
        | _ => rfl
      · simp only [endsWithin, same, isMain, if_true]
        omega
  | pipeline stepped =>
      have running := (Pipeline.ownStep_of_step stepped).1
      obtain ⟨pipeline', sink', stepped', less, kept⟩ :=
        Pipeline.exists_step_of_isDown settings.pipeline run.now running down
      cases stepped'.symm.trans stepped
      refine ⟨stays, kept, ?_⟩
      simp only [endsWithin, isMain, if_true]
      omega
  | @askPipeline task _ resume asks =>
      have turned : run.pipeline.turn settings.pipeline (.ask task run.calls.length)
          = some (resume run.calls.length) := Pipeline.turn_ask asks _
      refine ⟨stays, rfl, ?_⟩
      rw [isMain_of_isBackground (isBackground_of_ask asks)]
      exact beside (Pipeline.backgroundStep_of_ask turned)
  | @endPipeline task pipeline _ finished =>
      have turned : run.pipeline.turn settings.pipeline (.finish task) = some pipeline := finished
      refine ⟨stays, rfl, ?_⟩
      rw [isMain_of_isBackground (isBackground_of_finish finished)]
      exact beside (Pipeline.backgroundStep_of_finish turned)
  | reportWaits _ | reports _ => exact ⟨stays, dropped _ _, Nat.le_refl _⟩
  | @answer call server =>
      exact ⟨stays, rfl, beside (@Pipeline.BackgroundStep.hear _ call server)⟩
  | take taken =>
      exact ⟨stays, Sink.accepted_of_take? taken, Nat.le_refl _⟩
  | _ => exact ⟨stays, rfl, Nat.le_refl _⟩

/-- Whatever happens, nothing more is put into the queue of effects, and there are no more steps of
the session and its pipeline than it takes to end. -/
theorem windsDown_of_reaches (down : run.sink.shutdown.isDown = true)
    (reached : Reaches (SessionRun.move settings) run future later) :
    later.sink.shutdown.isDown = true ∧ later.sink.accepted = run.sink.accepted
      ∧ (future.filter fun moment => isMain moment.event).length + later.endsWithin
        ≤ run.endsWithin := by
  induction reached with
  | start => exact ⟨down, rfl, by simp⟩
  | @step future middle next event _ moved ih =>
      obtain ⟨stillDown, accepted, steps⟩ := ih
      have winds := windsDown_of_move stillDown moved
      have nearer := winds.nearer
      refine ⟨winds.down, winds.accepted.trans accepted, ?_⟩
      rw [List.filter_cons]
      split at nearer
      · next main =>
          rw [if_pos main, List.length_cons]
          omega
      · next other =>
          rw [if_neg other]
          omega

/-! ## After the end -/

/-- What has been dropped once a session no longer runs. -/
structure Dropped (run : SessionRun) : Prop where
  setup : run.session.phase ≠ .running → run.session.setup = .over
  payment : run.session.phase ≠ .running → run.session.payment = none
  pipeline : run.session.phase = .ended → run.pipeline.running = false

/-- What has been dropped stays dropped with every step of the session. -/
theorem Dropped.own (dropped : Dropped run) (step : OwnStep settings run next) : Dropped next := by
  cases step with
  | closes phase _ _ => exact ⟨fun _ => rfl, fun _ => rfl, nofun⟩
  | ends closing stopped =>
      have closed : run.session.phase ≠ .running := by simp [closing]
      exact ⟨fun _ => dropped.setup closed, fun _ => dropped.payment closed, fun _ => stopped⟩
  | rejects isOpen _ _ | setsUp isOpen _ _ | event isOpen _ _ _ | forwards isOpen _ _ =>
      have runs := isOpen.phase
      exact ⟨fun closed => absurd runs closed, fun closed => absurd runs closed,
        fun ended => absurd (runs.symm.trans ended) (by decide)⟩
  | drops runs _ _ | waits runs _ | tells runs _ | pays runs _ =>
      exact ⟨fun closed => absurd runs closed, fun closed => absurd runs closed,
        fun ended => absurd (runs.symm.trans ended) (by decide)⟩

/-- What has been dropped stays dropped with every move. -/
theorem dropped_of_move (dropped : Dropped run) (moved : run.move settings event = some next) :
    Dropped next := by
  cases moveStep_of_move moved with
  | own step => exact dropped.own step
  | pipeline stepped =>
      have running := (Pipeline.ownStep_of_step stepped).1
      refine { dropped with pipeline := fun ended => ?_ }
      cases running.symm.trans (dropped.pipeline ended)
  | @askPipeline task _ resume asks =>
      have turned : run.pipeline.turn settings.pipeline (.ask task run.calls.length)
          = some (resume run.calls.length) := Pipeline.turn_ask asks _
      have kept := Pipeline.backgroundStep_stops (Pipeline.backgroundStep_of_ask turned) (by simp)
      exact { dropped with pipeline := fun ended => kept.2.trans (dropped.pipeline ended) }
  | @endPipeline task pipeline _ finished =>
      have turned : run.pipeline.turn settings.pipeline (.finish task) = some pipeline := finished
      have kept :=
        Pipeline.backgroundStep_stops (Pipeline.backgroundStep_of_finish turned) (by simp)
      exact { dropped with pipeline := fun ended => kept.2.trans (dropped.pipeline ended) }
  | askMethods loading _ | askCurrency loading _ _ | endSetup loading _ _ =>
      exact { dropped with
        setup := fun closed => by cases loading.symm.trans (dropped.setup closed) }
  | askPayment paying _ | askWatch paying _ | submits paying _ | watches paying _
  | settles paying _ | reports paying =>
      exact { dropped with
        payment := fun closed => by cases paying.symm.trans (dropped.payment closed) }
  | answer =>
      refine ⟨fun closed => ?_, fun closed => ?_, dropped.pipeline⟩
      · simp only [hear, dropped.setup closed]
      · simp only [hear, dropped.payment closed]
  | _ => exact { dropped with }

/-- In every run what is to be dropped has been once the session no longer runs. -/
theorem dropped_of_reaches
    (reached : Reaches (SessionRun.move settings) (SessionRun.start settings) past run) :
    Dropped run := by
  induction reached with
  | start => exact ⟨fun closed => absurd rfl closed, fun _ => rfl, nofun⟩
  | step _ moved ih => exact dropped_of_move ih moved

/-- A screen at its end: everything that it ever began has ended or has been dropped. -/
structure IsOver (run : SessionRun) : Prop where
  phase : run.session.phase = .ended
  setup : run.session.setup = .over
  payment : run.session.payment = none
  stopped : run.pipeline.running = false
  quiet : run.pipeline.IsQuiet

/-- In every run a session that has ended is over. -/
theorem isOver_of_reaches
    (reached : Reaches (SessionRun.move settings) (SessionRun.start settings) past run)
    (ended : run.session.phase = .ended) : IsOver run := by
  have dropped := dropped_of_reaches reached
  have closed : run.session.phase ≠ .running := by simp [ended]
  have stopped := dropped.pipeline ended
  exact ⟨ended, dropped.setup closed, dropped.payment closed, stopped,
    Pipeline.isQuiet_of_reaches (reaches_turns reached) stopped⟩

/-- A screen that is over takes no step. -/
theorem IsOver.step_eq_none (rests : IsOver run) (task : TaskName) :
    run.step settings task = none := by
  obtain ⟨asks, ends⟩ := rests.quiet.silent task
  have still : ∀ effect, run.session.payment ≠ some effect := by simp [rests.payment]
  cases task with
  | session => simp only [step, ask?, asks, Option.map_none, stepSession, rests.phase]
  | pipeline =>
      simp only [step, ask?, asks, Option.map_none, Pipeline.step, rests.stopped, Bool.not_false,
        if_true]
  | setup => simp only [step, ask?, stepSetup, rests.setup]
  | payment => simp only [step, ask?, stepPayment, rests.payment]
  | conversion | bonus | limits => simp only [step, ask?, asks, Option.map_none, ends]

/-- A screen that is over waits for no answer. -/
theorem IsOver.openCalls (rests : IsOver run) : run.openCalls = [] := by
  simp only [SessionRun.openCalls, rests.setup, rests.payment, rests.quiet.openCalls,
    List.append_nil]

/-- A screen that is over stays so and does nothing more, whatever happens. -/
theorem isOver_of_move (rests : IsOver run) (moved : run.move settings event = some next) :
    IsOver next ∧ next.calls = run.calls ∧ next.pipeline.state = run.pipeline.state
      ∧ next.sink.accepted = run.sink.accepted := by
  cases event with
  | step task => cases (rests.step_eq_none task).symm.trans moved
  | answer call server =>
      obtain rfl := Option.some.inj moved
      refine ⟨⟨rests.phase, ?_, ?_, rests.stopped, rests.quiet.background .hear⟩, rfl, rfl, rfl⟩
      · simp only [hear, rests.setup]
      · simp only [hear, rests.payment]
  | send event =>
      simp only [move, rests.phase, bne_self_eq_false, Bool.and_false, Bool.false_eq_true,
        if_false] at moved
      cases moved
  | take =>
      obtain ⟨⟨effect, sink⟩, taken, rfl⟩ := Option.map_eq_some_iff.mp moved
      exact ⟨{ rests with }, rfl, rfl, Sink.accepted_of_take? taken⟩
  | advance _ | teardown | dropHandle | stopListening =>
      obtain rfl := Option.some.inj moved
      exact ⟨{ rests with }, rfl, rfl, rfl⟩

/-- Nothing becomes of a screen at its end: it asks nothing, publishes nothing and tells nobody
anything. -/
theorem isOver_of_later (rests : IsOver run)
    (reached : Reaches (SessionRun.move settings) run future later) :
    IsOver later ∧ later.calls = run.calls ∧ later.pipeline.state = run.pipeline.state
      ∧ later.sink.accepted = run.sink.accepted := by
  induction reached with
  | start => exact ⟨rests, rfl, rfl, rfl⟩
  | step _ moved ih =>
      obtain ⟨overNow, calls, state, accepted⟩ := ih
      obtain ⟨overNext, callsNext, stateNext, acceptedNext⟩ := isOver_of_move overNow moved
      exact ⟨overNext, callsNext.trans calls, stateNext.trans state, acceptedNext.trans accepted⟩

/-! ## Every run that is torn down -/

/-- A screen that is to be torn down, in the middle of whatever it is doing. -/
structure WindsUp (settings : SessionSettings) (run : SessionRun) : Prop where
  /-- Whoever wants to tell something drops it, also if it has been waiting. -/
  drops : ∀ sender effect, run.sink.emit sender effect = (.dropped, run.sink.forget sender)
  /-- Nothing more is put into the queue of effects. -/
  silent : ∀ future later, Reaches (SessionRun.move settings) run future later →
    later.sink.shutdown.isDown = true ∧ later.sink.accepted = run.sink.accepted
  /-- A session that has not begun to close does not wait. -/
  session : run.session.phase = .running → (run.step settings .session).isSome = true
  /-- One that closes only waits for its pipeline. -/
  closing : run.session.phase = .closing → run.pipeline.running = false →
    (run.step settings .session).isSome = true
  /-- The pipeline does not wait. -/
  pipeline : run.pipeline.running = true → (run.step settings .pipeline).isSome = true
  /-- Nor does a payment that reports its end. -/
  payment : ∀ effect, run.session.payment = some (.reporting effect) →
    (run.step settings .payment).isSome = true
  /-- Until the session has ended, it or its pipeline can take a step. -/
  live : run.session.phase ≠ .ended →
    (run.step settings .session).isSome = true ∨ (run.step settings .pipeline).isSome = true
  /-- Whatever happens beside them, the two take no more steps than it takes to end. -/
  bounded : ∀ future later, Reaches (SessionRun.move settings) run future later →
    (future.filter fun moment => isMain moment.event).length + later.endsWithin ≤ run.endsWithin
  /-- Once the session has ended nothing is left of any task, none takes another step, and nothing
  is asked, published or told any more. -/
  rests : run.session.phase = .ended → IsOver run ∧ run.openCalls = []
    ∧ (∀ task, run.step settings task = none)
    ∧ ∀ future later, Reaches (SessionRun.move settings) run future later →
        IsOver later ∧ later.calls = run.calls ∧ later.pipeline.state = run.pipeline.state
          ∧ later.sink.accepted = run.sink.accepted

/-- **Nothing happens on a torn-down screen.**  From whatever moment on it is to be torn down, in
every run: no effect is put into the queue, nobody waits for the presentation layer, and both the
session and its pipeline come to their end; then every task has ended or has been dropped. -/
theorem silent_after_teardown
    (reached : Reaches (SessionRun.move settings) (SessionRun.start settings) past run)
    (down : run.sink.shutdown.isDown = true) : WindsUp settings run where
  drops := fun sender effect => run.sink.emit_of_isDown sender effect down
  silent := fun future later reachedLater =>
    have winds := windsDown_of_reaches down reachedLater
    ⟨winds.1, winds.2.1⟩
  session := fun phase => by
    obtain ⟨_, stepped, _⟩ := exists_stepSession_of_isDown settings (.inl phase) down
    exact Option.isSome_of_eq_some stepped
  closing := fun phase stopped => by
    obtain ⟨_, stepped, _⟩ := exists_stepSession_of_isDown settings (.inr ⟨phase, stopped⟩) down
    exact Option.isSome_of_eq_some stepped
  pipeline := fun running => by
    obtain ⟨_, _, stepped, _⟩ :=
      Pipeline.exists_step_of_isDown settings.pipeline run.now running down
    change ((run.pipeline.step settings.pipeline run.now run.sink).map _).isSome = true
    rw [stepped]
    rfl
  payment := fun effect reporting => by
    have silent : run.ask? .payment = none := by simp only [ask?, reporting]
    simp only [step, silent, stepPayment, reporting,
      run.sink.emit_of_isDown .payment effect down, Option.isSome_some]
  live := exists_step_of_isDown settings down
  bounded := fun future later reachedLater => (windsDown_of_reaches down reachedLater).2.2
  rests := fun ended => by
    have rests := isOver_of_reaches reached ended
    exact ⟨rests, rests.openCalls, rests.step_eq_none, fun future later => isOver_of_later rests⟩

/-! ## A teardown while a payment is under way -/

/-- The screen is torn down while the provider takes its time. -/
def Sample.tornDown : SessionRun := after paid [.teardown]

/-- The session drops the payment and waits for its pipeline. -/
def Sample.closed : SessionRun :=
  after tornDown [.step .session, .step .pipeline, .step .session]

theorem silent_after_teardown_of_sample :
    (∃ past, Reaches (SessionRun.move {}) (SessionRun.start {}) past Sample.tornDown
        ∧ Sample.tornDown.session.isPaying = true ∧ WindsUp {} Sample.tornDown)
      ∧ ∃ past, Reaches (SessionRun.move {}) (SessionRun.start {}) past Sample.closed
        ∧ Sample.closed.session.phase = .ended ∧ WindsUp {} Sample.closed := by
  have reachesDown : ∃ past, Reaches (SessionRun.awaitMove {}) (SessionRun.start {}) past
      Sample.tornDown := Sample.reaches_after Sample.reaches_paid (by rfl)
  have reachesClosed : ∃ past, Reaches (SessionRun.awaitMove {}) (SessionRun.start {}) past
      Sample.closed := Sample.reaches_after reachesDown (by rfl)
  obtain ⟨_, reachedDown⟩ := reachesDown
  obtain ⟨_, reachedClosed⟩ := reachesClosed
  have down := reaches_of_awaitMove reachedDown
  have closed := reaches_of_awaitMove reachedClosed
  exact ⟨⟨_, down, rfl, silent_after_teardown down rfl⟩,
    ⟨_, closed, rfl, silent_after_teardown closed rfl⟩⟩

end SessionRun

end WalletTopUp
