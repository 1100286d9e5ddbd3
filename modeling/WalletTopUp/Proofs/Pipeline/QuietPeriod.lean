import WalletTopUp.Proofs.Pipeline.Inputs
import WalletTopUp.Proofs.Pipeline.Supersession

/-!
# The quiet period

An accepted edit and a switch of sides before the amount has settled begin the quiet period, and
when it is over, the pipeline's own task notices.  Between the moment at which such an input is
taken and the one at which the deadline is set lie other duties, so what is due is read off the
duties as long as they are left and off the deadline afterwards (`PipelineRun.due?`).  Seen that way
a move does one of four things (`PipelineRun.Timed`), and what is due is what the history says
(`PipelineRun.quietUntil_iff`).
-/

namespace WalletTopUp

namespace Pipeline

variable {settings : PipelineSettings} {pipeline next : Pipeline} {past : History}

/-! ## Which duties stand before which -/

/-- Whether a duty may stand before the one that sets the deadline. -/
def leadsToArm : Duty → Bool
  | .cancelConversion | .cancelBonus | .publish (.amountEdited _) | .emit _ => true
  | _ => false

/-- Whether a duty may stand before the one that sets the deadline after a switch of sides. -/
def leadsToRearm : Duty → Bool
  | .publish .currencySwitched | .announceSide | .emit _ => true
  | _ => false

/-- Whether a duty may stand before another one. -/
def mayPrecede (duty : Duty) : Duty → Bool
  | .arm => leadsToArm duty
  | .rearm => leadsToRearm duty
  | .convert => false
  | _ => duty ≠ .convert

/-- The duties stand in an order in which they can have come. -/
def Ordered (duties : List Duty) : Prop :=
  duties.Pairwise fun duty later => mayPrecede duty later = true

/-- What an input asks for is in order. -/
theorem ordered_inputDuties (input : AmountInput) : Ordered (inputDuties input) := by
  cases input with
  | edit text =>
      simp only [inputDuties]
      split
      · exact .nil
      · simp [Ordered, mayPrecede, leadsToArm]
  | _ => simp [Ordered, inputDuties, mayPrecede, leadsToRearm]

/-- What a finished request asks for is in order. -/
theorem ordered_completionDuties (completion : Completion) :
    Ordered (pipeline.completionDuties completion) := by
  cases completion with
  | limitsLoaded limits => cases limits <;> simp [Ordered, completionDuties, mayPrecede]
  | _ =>
      simp only [completionDuties]
      split <;> simp [Ordered, mayPrecede]

/-- What a check asks for is in order. -/
theorem ordered_validationDuties (state : ScreenState) : Ordered (validationDuties state) := by
  simp only [validationDuties]
  split
  · exact List.pairwise_singleton _ _
  · exact .nil
  · split <;> simp [Ordered, mayPrecede]

/-- What a duty adds is in order. -/
theorem ordered_added (state : ScreenState) (duty : Duty) : Ordered (added state duty) := by
  cases duty with
  | validate => exact ordered_validationDuties state
  | convert =>
      simp only [added]
      split
      · exact List.pairwise_singleton _ _
      · exact List.pairwise_singleton _ _
      · split
        · exact .nil
        · exact List.pairwise_singleton _ _
  | rearm | revalidate | validateWaiting =>
      simp only [added]
      split <;> simp [Ordered, mayPrecede, leadsToArm]
  | _ => simp [Ordered, added, mayPrecede]

/-- What a duty adds may stand before whatever the duty itself stood before. -/
theorem mayPrecede_of_mem_added {state : ScreenState} {duty new later : Duty}
    (member : new ∈ added state duty)
    (first : mayPrecede duty later = true) : mayPrecede new later = true := by
  have notConvert : new ≠ .convert := by
    rintro rfl
    rcases settles_of_mem_added member rfl with ⟨_, _, same⟩ | ⟨_, _, same⟩ <;> cases same
  cases later with
  | arm =>
      cases duty with
      | emit effect => rw [List.mem_singleton.mp member]; rfl
      | cancelConversion | cancelBonus | publish _ => cases member
      | _ => cases first
  | rearm =>
      cases duty with
      | emit effect | announceSide => rw [List.mem_singleton.mp member]; rfl
      | publish _ => cases member
      | _ => cases first
  | convert => cases first
  | _ => exact decide_eq_true notConvert

/-- Performing the first duty keeps the order: what it adds takes its place. -/
theorem Ordered.perform {duty : Duty} {rest : List Duty} (ordered : Ordered (duty :: rest))
    (state : ScreenState) : Ordered (added state duty ++ rest) := by
  obtain ⟨first, left⟩ := List.pairwise_cons.mp ordered
  exact List.pairwise_append.mpr ⟨ordered_added state duty, left,
    fun _ member _ other => mayPrecede_of_mem_added member (first _ other)⟩

/-- A conversion that is due is the only duty. -/
theorem Ordered.convert_alone {duties : List Duty} (ordered : Ordered duties)
    (member : .convert ∈ duties) : duties = [.convert] := by
  obtain ⟨front, back, rfl⟩ := List.append_of_mem member
  obtain ⟨_, right, across⟩ := List.pairwise_append.mp ordered
  have before : front = [] := List.eq_nil_iff_forall_not_mem.mpr fun duty inside =>
    Bool.noConfusion (across duty inside _ List.mem_cons_self)
  have after : back = [] := List.eq_nil_iff_forall_not_mem.mpr fun duty inside => by
    have leads := (List.pairwise_cons.mp right).1 duty inside
    cases duty <;> cases leads
  rw [before, after, List.nil_append]

/-- Every step of the pipeline's own task keeps the order. -/
theorem ordered_ownStep {now : Instant} {sink : Sink TaskName} (ordered : Ordered pipeline.duties)
    (step : OwnStep settings now sink pipeline next) : Ordered next.duties := by
  cases step with
  | stops _ _ | waits _ _ => exact ordered
  | input _ _ => exact ordered_inputDuties _
  | deadline _ _ => exact List.pairwise_singleton _ _
  | completion _ _ => exact ordered_completionDuties _
  | tells head _ =>
      rw [head] at ordered
      exact (List.pairwise_cons.mp ordered).2
  | performs head _ =>
      rw [head] at ordered
      rw [duties_perform]
      exact ordered.perform _

/-- In every run the duties stand in order. -/
theorem ordered_of_reaches
    (reached : Reaches (Pipeline.turn settings) (start settings) past pipeline) :
    Ordered pipeline.duties := by
  induction reached with
  | start => exact .nil
  | step _ moved ih =>
      rcases step_of_turn moved with ⟨now, sink, rfl, _, step⟩ | step
      · exact ordered_ownStep ih step
      · rw [(background_of_backgroundStep step).duties]
        exact ih

/-! ## The duties that begin the quiet period -/

/-- Whether a duty is going to begin the quiet period. -/
def beginsQuiet (settled : Bool) : Duty → Bool
  | .arm => true
  | .rearm => !settled
  | _ => false

/-- Whether a duty that is left is going to begin the quiet period. -/
def willArm (pipeline : Pipeline) : Bool :=
  pipeline.duties.any (beginsQuiet pipeline.state.settled)

/-- With nothing left to do nothing is going to set the deadline. -/
theorem willArm_of_free (free : pipeline.duties = []) : pipeline.willArm = false := by
  simp only [willArm, free, List.any_nil]

/-- Whether an input begins the quiet period when it is taken. -/
def beginsQuietWith (settled : Bool) : AmountInput → Bool
  | .edit text => (AmountValue.ofText? text).isSome
  | .switchCurrency => !settled
  | _ => false

/-- An input is going to set the deadline exactly if it begins the quiet period. -/
theorem any_inputDuties (settled : Bool) (input : AmountInput) :
    (inputDuties input).any (beginsQuiet settled) = beginsQuietWith settled input := by
  cases input with
  | edit text =>
      simp only [inputDuties, beginsQuietWith]
      cases AmountValue.ofText? text <;> rfl
  | switchCurrency => cases settled <;> rfl
  | _ => rfl

/-- A finished request never sets the deadline. -/
theorem any_completionDuties (settled : Bool) (completion : Completion) :
    (pipeline.completionDuties completion).any (beginsQuiet settled) = false := by
  cases completion with
  | limitsLoaded limits => cases limits <;> rfl
  | _ =>
      simp only [completionDuties]
      split <;> rfl

/-- A duty other than the one that sets the deadline leaves it open or not as it was. -/
theorem any_added {state : ScreenState} {duty : Duty} (arms : duty ≠ .arm) (settled : Bool)
    (rearms : duty = .rearm → state.settled = settled) :
    (added state duty).any (beginsQuiet settled) = beginsQuiet settled duty := by
  cases duty with
  | arm => exact (arms rfl).elim
  | rearm =>
      rw [added, rearms rfl]
      cases settled <;> rfl
  | convert =>
      simp only [added]
      split
      · rfl
      · rfl
      · split <;> rfl
  | validate =>
      simp only [added, validationDuties]
      split
      · rfl
      · rfl
      · split <;> rfl
  | revalidate | validateWaiting =>
      simp only [added]
      split <;> rfl
  | _ => rfl

/-- Nothing that is published before a duty decides whether that one begins the quiet period. -/
theorem beginsQuiet_published {state : ScreenState} {duty later : Duty}
    (first : mayPrecede duty later = true) :
    beginsQuiet (published state duty).settled later = beginsQuiet state.settled later := by
  cases later with
  | rearm =>
      cases duty with
      | publish action =>
          cases action with
          | currencySwitched => rfl
          | _ => cases first
      | _ => rfl
  | _ => rfl

/-- Until the deadline is set, performing a duty changes nothing about whether it will be. -/
theorem willArm_perform (settings : PipelineSettings) (now : Instant) {duty : Duty}
    {rest : List Duty}
    (ordered : Ordered (duty :: rest))
    (head : pipeline.duties = duty :: rest)
    (arms : duty ≠ .arm) :
    (({ pipeline with duties := rest } : Pipeline).perform settings now duty).willArm
      = pipeline.willArm := by
  obtain ⟨first, _⟩ := List.pairwise_cons.mp ordered
  have effect := performed settings now pipeline duty rest
  have left : rest.any (beginsQuiet (published pipeline.state duty).settled)
      = rest.any (beginsQuiet pipeline.state.settled) := by
    rw [Bool.eq_iff_iff, List.any_eq_true, List.any_eq_true]
    refine exists_congr fun later => and_congr_right fun member => ?_
    rw [beginsQuiet_published (first later member)]
  have here : (added pipeline.state duty).any
        (beginsQuiet (published pipeline.state duty).settled)
      = beginsQuiet pipeline.state.settled duty := by
    rw [any_added arms _ fun same => by rw [same]; rfl]
    cases duty <;> rfl
  rw [willArm, willArm, effect.state, effect.duties, head, List.any_append, left, here,
    List.any_cons]

/-- Once the deadline is set, nothing is left that would set it. -/
theorem willArm_arm (settings : PipelineSettings) (now : Instant) {rest : List Duty}
    (ordered : Ordered (.arm :: rest)) :
    (({ pipeline with duties := rest } : Pipeline).perform settings now .arm).willArm = false := by
  obtain ⟨first, _⟩ := List.pairwise_cons.mp ordered
  refine List.any_eq_false.mpr fun later member => ?_
  have leads := first later member
  cases later with
  | arm | rearm | convert => cases leads
  | _ => exact Bool.false_ne_true

/-- A step of the pipeline's own task leaves the deadline, sets it or drops it. -/
theorem debouncer_ownStep {now : Instant} {sink : Sink TaskName}
    (step : OwnStep settings now sink pipeline next) :
    next.debouncer = pipeline.debouncer ∨ next.debouncer = pipeline.debouncer.arm now
      ∨ next.debouncer = pipeline.debouncer.disarm := by
  cases step with
  | deadline _ _ => exact .inr (.inr rfl)
  | @performs duty rest head _ =>
      by_cases arms : duty = .arm
      · subst arms
        exact .inr (.inl rfl)
      · exact .inl ((performed settings now pipeline duty rest).debouncer arms)
  | _ => exact .inl rfl

/-! ## What the pipeline's own task takes when it is free -/

/-- Everything that can be taken, with what is not there to be taken before. -/
inductive Took (now : Instant) (shutdown : Shutdown) (pipeline : Pipeline) : Pipeline → Prop where
  | stops (ending : shutdown.isDown = true
        ∨ (pipeline.inputs = [] ∧ pipeline.inputsOpen = false)) :
      Took now shutdown pipeline pipeline.stop
  | input {input : AmountInput} {rest : List AmountInput}
      (up : shutdown.isDown = false)
      (waiting : pipeline.inputs = input :: rest) :
      Took now shutdown pipeline
        { pipeline with inputs := rest, duties := inputDuties input }
  | deadline
      (up : shutdown.isDown = false)
      (noInput : pipeline.inputs = [])
      (opened : pipeline.inputsOpen = true)
      (elapsed : pipeline.debouncer.elapsed now = true) :
      Took now shutdown pipeline
        { pipeline with debouncer := pipeline.debouncer.disarm, duties := [.convert] }
  | completion {completion : Completion} {rest : List Completion}
      (noInput : pipeline.inputs = [])
      (early : pipeline.debouncer.elapsed now = false) :
      Took now shutdown pipeline (pipeline.taking completion rest)

/-- What the pipeline's own task takes is one of these things. -/
theorem took_of_takeNext {now : Instant} {shutdown : Shutdown}
    (taken : pipeline.takeNext now shutdown = some next) : Took now shutdown pipeline next := by
  simp only [takeNext] at taken
  split at taken
  · next down =>
      cases taken
      exact .stops (.inl down)
  · next notDown =>
      have up : shutdown.isDown = false := Bool.eq_false_iff.mpr notDown
      split at taken
      · next waiting =>
          cases taken
          exact .input up waiting
      · next noInput =>
          split at taken
          · next closed =>
              cases taken
              exact .stops (.inr ⟨noInput, by simpa using closed⟩)
          · next notClosed =>
              split at taken
              · next elapsed =>
                  cases taken
                  exact .deadline up noInput (by simpa using notClosed) elapsed
              · next early =>
                  split at taken
                  · cases taken
                  · cases taken
                    exact .completion noInput (Bool.eq_false_iff.mpr early)

/-- What the pipeline's own task does while something is left to do. -/
inductive Worked (settings : PipelineSettings) (now : Instant) (pipeline : Pipeline) :
    Pipeline → Prop where
  | waits {effect : Effect} {rest : List Duty}
      (head : pipeline.duties = .emit effect :: rest) :
      Worked settings now pipeline pipeline
  | tells {effect : Effect} {rest : List Duty}
      (head : pipeline.duties = .emit effect :: rest) :
      Worked settings now pipeline { pipeline with duties := rest }
  | performs {duty : Duty} {rest : List Duty}
      (head : pipeline.duties = duty :: rest)
      (silent : ∀ effect, duty ≠ .emit effect) :
      Worked settings now pipeline
        (({ pipeline with duties := rest } : Pipeline).perform settings now duty)

/-- A pipeline that has something left to do works at it. -/
theorem worked_of_ownStep {now : Instant} {sink : Sink TaskName}
    (busy : pipeline.duties ≠ [])
    (step : OwnStep settings now sink pipeline next) : Worked settings now pipeline next := by
  cases step with
  | stops free _ | input free _ => exact (busy free).elim
  | deadline caughtUp _ | completion caughtUp _ => exact (busy caughtUp.1).elim
  | waits head _ => exact .waits head
  | tells head _ => exact .tells head
  | performs head silent => exact .performs head silent

end Pipeline

namespace PipelineRun

variable {settings : PipelineSettings} {run next : PipelineRun} {event : Move}
  {past : List (Moment PipelineRun Move)}

/-! ## Steps of a run -/

/-- Only a pipeline that runs takes a step. -/
theorem running_of_move (moved : run.move settings (.step .pipeline) = some next) :
    run.pipeline.running = true := by
  obtain ⟨⟨_, _⟩, stepped, _⟩ := Option.map_eq_some_iff.mp moved
  exact (Pipeline.ownStep_of_step stepped).1

/-- A step of a free pipeline takes something. -/
theorem took_of_move (moved : run.move settings (.step .pipeline) = some next)
    (free : run.pipeline.duties = []) :
    Pipeline.Took run.now run.sink.shutdown run.pipeline next.pipeline := by
  obtain ⟨⟨pipeline, sink⟩, stepped, rfl⟩ := Option.map_eq_some_iff.mp moved
  simp only [Pipeline.step, free] at stepped
  split at stepped
  · cases stepped
  · obtain ⟨taken, took, same⟩ := Option.map_eq_some_iff.mp stepped
    cases same
    exact Pipeline.took_of_takeNext took

/-- Only the passing of time changes the time. -/
theorem now_of_move (moved : run.move settings event = some next) :
    next.now = run.now
      ∨ ∃ milliseconds, event = .advance milliseconds ∧ next.now = run.now + milliseconds := by
  cases event with
  | advance milliseconds =>
      obtain rfl := Option.some.inj moved
      exact .inr ⟨milliseconds, rfl, rfl⟩
  | step task =>
      refine .inl ?_
      simp only [move, step] at moved
      cases asks : run.pipeline.ask? task with
      | some pair =>
          simp only [asks] at moved
          obtain rfl := Option.some.inj moved
          rfl
      | none =>
          simp only [asks] at moved
          cases task with
          | pipeline | session | setup | conversion | bonus | limits | payment =>
              obtain ⟨_, _, rfl⟩ := Option.map_eq_some_iff.mp moved
              rfl
  | send input =>
      refine .inl ?_
      simp only [move] at moved
      split at moved
      · obtain rfl := Option.some.inj moved
        rfl
      · cases moved
  | take =>
      obtain ⟨_, _, rfl⟩ := Option.map_eq_some_iff.mp moved
      exact .inl rfl
  | answer _ _ | close | signal _ | dropSignal | stopListening =>
      obtain rfl := Option.some.inj moved
      exact .inl rfl

/-- Time passes by itself only. -/
theorem now_of_still (moved : run.move settings event = some next)
    (still : ∀ milliseconds, event ≠ .advance milliseconds) : next.now = run.now := by
  rcases now_of_move moved with same | ⟨milliseconds, advances, _⟩
  · exact same
  · exact (still milliseconds advances).elim

/-- What only a step of the pipeline's own task changes. -/
structure Untouched (run next : PipelineRun) : Prop where
  state : next.pipeline.state = run.pipeline.state
  debouncer : next.pipeline.debouncer = run.pipeline.debouncer
  duties : next.pipeline.duties = run.pipeline.duties
  running : next.pipeline.running = run.pipeline.running

/-- Nobody but the pipeline itself touches its state, its duties and its deadline. -/
theorem untouched_of_move (moved : run.move settings event = some next)
    (other : event ≠ .step .pipeline) : Untouched run next := by
  cases labelled : run.turn? event with
  | none =>
      have same := pipeline_of_move moved labelled
      exact ⟨by rw [same], by rw [same], by rw [same], by rw [same]⟩
  | some action =>
      rcases Pipeline.step_of_turn (turn_of_move moved labelled) with ⟨now, sink, rfl, _, _⟩ | step
      · refine (other ?_).elim
        cases event with
        | step task =>
            simp only [turn?] at labelled
            split at labelled
            · cases labelled
            · rfl
            · cases labelled
        | _ => cases labelled
      · have background := Pipeline.background_of_backgroundStep step
        exact ⟨background.state, background.debouncer, background.duties, background.running⟩

/-! ## Exact timers -/

/-- The timers are exact: time passes only when no task can take a step, and not past the end of
the quiet period, unless the pipeline is waiting for the presentation layer. -/
def IsExact (settings : PipelineSettings) (moment : Moment PipelineRun Move) : Prop :=
  ∀ milliseconds, moment.event = .advance milliseconds →
    (∀ task, moment.before.step settings task = none)
      ∧ (moment.before.pipeline.running = true → moment.before.pipeline.duties = [] →
          ∀ deadline, moment.before.pipeline.debouncer.deadline = some deadline →
            moment.before.now + milliseconds ≤ deadline)

/-- The timers are exact, and the presentation layer keeps reading: no time passes while the
pipeline waits for it. -/
def IsPunctual (settings : PipelineSettings) (past : List (Moment PipelineRun Move)) : Prop :=
  ∀ moment ∈ past, IsExact settings moment
    ∧ ∀ milliseconds, moment.event = .advance milliseconds → moment.before.pipeline.duties = []

/-! ## What begins the quiet period, and who notices its end -/

/-- The pipeline's own task is free to take something, and the screen is not being torn down. -/
structure Looks (moment : Moment PipelineRun Move) : Prop where
  own : moment.event = .step .pipeline
  free : moment.before.pipeline.duties = []
  up : moment.before.sink.shutdown.isDown = false

/-- An input is taken that begins the quiet period: an edit with a text that is an amount, or a
switch of sides before the amount has settled. -/
structure Restarts (input : AmountInput) (moment : Moment PipelineRun Move) : Prop where
  looks : Looks moment
  waiting : ∃ rest, moment.before.pipeline.inputs = input :: rest
  begins : Pipeline.beginsQuietWith moment.before.pipeline.state.settled input = true

/-- The pipeline's own task gets to look at the deadline, which it does only if no input waits. -/
structure Notices (moment : Moment PipelineRun Move) : Prop where
  looks : Looks moment
  noInput : moment.before.pipeline.inputs = []
  opened : moment.before.pipeline.inputsOpen = true

/-- Nothing has begun the quiet period anew that ends at this time, and nobody has looked at the
deadline since it was over. -/
def QuietUntil (window : Nat) (time : Instant) (past : List (Moment PipelineRun Move)) : Prop :=
  Since (fun moment => (∀ input, ¬ Restarts input moment)
      ∧ (Notices moment → moment.before.now < time))
    (fun moment _ => (∃ input, Restarts input moment) ∧ moment.before.now + window = time) past

/-- The quiet period ends now, and it is noticed. -/
def FallsDue (window : Nat) (moment : Moment PipelineRun Move)
    (earlier : List (Moment PipelineRun Move)) : Prop :=
  Notices moment ∧ QuietUntil window moment.before.now earlier

/-- The end of the quiet period, if there is one. -/
def due? (run : PipelineRun) : Option Instant :=
  if run.pipeline.willArm then some (run.now + run.pipeline.debouncer.window)
  else run.pipeline.debouncer.deadline

/-- What holds at every moment of a run that keeps to the times. -/
structure Steady (settings : PipelineSettings) (run : PipelineRun) : Prop where
  window : run.pipeline.debouncer.window = settings.window
  ordered : Pipeline.Ordered run.pipeline.duties
  unarmed : .convert ∈ run.pipeline.duties → run.pipeline.debouncer.deadline = none
  ahead : run.pipeline.running = true → ∀ deadline,
    run.pipeline.debouncer.deadline = some deadline → run.now ≤ deadline

/-- What a move does to the quiet period. -/
inductive Timed (run : PipelineRun) (event : Move) (next : PipelineRun) : Prop where
  | restarts {input : AmountInput}
      (restarts : Restarts input ⟨run, event⟩)
      (duties : next.pipeline.duties = Pipeline.inputDuties input)
      (state : next.pipeline.state = run.pipeline.state)
      (now : next.now = run.now)
      (due : next.due? = some (run.now + run.pipeline.debouncer.window)) : Timed run event next
  | notices
      (notices : Notices ⟨run, event⟩)
      (elapsed : run.due? = some run.now)
      (duties : next.pipeline.duties = [.convert])
      (state : next.pipeline.state = run.pipeline.state)
      (now : next.now = run.now)
      (due : next.due? = none) : Timed run event next
  | converts
      (own : event = .step .pipeline)
      (duties : run.pipeline.duties = [.convert])
      (done : .convert ∉ next.pipeline.duties)
      (now : next.now = run.now)
      (undue : run.due? = none)
      (due : next.due? = none) : Timed run event next
  | passes
      (calm : ∀ input, ¬ Restarts input ⟨run, event⟩)
      (early : Notices ⟨run, event⟩ → ∀ time, run.due? = some time → run.now < time)
      (now : run.now ≤ next.now)
      (converts : .convert ∈ next.pipeline.duties ↔ .convert ∈ run.pipeline.duties)
      (waits : .convert ∈ run.pipeline.duties → event ≠ .step .pipeline
        ∧ next.pipeline.state = run.pipeline.state ∧ next.now = run.now)
      (due : next.due? = run.due?) : Timed run event next

/-- With nothing left to do, what is due is what the deadline says. -/
theorem due?_of_free (free : run.pipeline.duties = []) :
    run.due? = run.pipeline.debouncer.deadline := by
  rw [due?, Pipeline.willArm_of_free free]
  rfl

/-- A pipeline that has something left to do does not look at the deadline. -/
theorem not_looks_of_busy {run : PipelineRun} (busy : run.pipeline.duties ≠ []) :
    ¬ Looks ⟨run, event⟩ := fun looks => busy looks.free

/-- No input asks for a conversion at once. -/
theorem not_convert_mem_inputDuties (input : AmountInput) :
    .convert ∉ Pipeline.inputDuties input := fun member =>
  Bool.noConfusion (Pipeline.not_settles_of_mem_inputDuties member)

/-- No duty adds a conversion. -/
theorem not_convert_mem_added (state : ScreenState) (duty : Duty) :
    .convert ∉ Pipeline.added state duty := fun member => by
  rcases Pipeline.settles_of_mem_added member rfl with ⟨_, _, same⟩ | ⟨_, _, same⟩ <;> cases same

/-- No finished request asks for a conversion. -/
theorem not_convert_mem_completionDuties {pipeline : Pipeline} (completion : Completion) :
    .convert ∉ pipeline.completionDuties completion := fun member => by
  cases completion with
  | limitsLoaded limits => cases limits <;> simp [Pipeline.completionDuties] at member
  | _ =>
      simp only [Pipeline.completionDuties] at member
      split at member <;> simp at member

/-! ## What a move does to the quiet period -/

/-- What the pipeline's own task takes. -/
theorem timed_of_free
    (steady : Steady settings run)
    (moved : run.move settings (.step .pipeline) = some next)
    (free : run.pipeline.duties = []) : Timed run (.step .pipeline) next := by
  have running := running_of_move moved
  have took := took_of_move moved free
  have now : next.now = run.now := now_of_still moved (by simp)
  have undone : .convert ∉ run.pipeline.duties := by simp [free]
  generalize same : next.pipeline = taken at took
  cases took with
  | stops ending =>
      refine .passes ?_ ?_ now.ge ?_ (fun member => (undone member).elim) ?_
      · rintro input ⟨⟨_, _, up⟩, ⟨rest, waiting⟩, _⟩
        rcases ending with down | ⟨nothing, _⟩
        · exact Bool.noConfusion (down.symm.trans up)
        · cases nothing.symm.trans waiting
      · rintro ⟨⟨_, _, up⟩, _, opened⟩
        rcases ending with down | ⟨_, closed⟩
        · exact Bool.noConfusion (down.symm.trans up)
        · exact Bool.noConfusion (closed.symm.trans opened)
      · rw [same]
        exact Iff.rfl
      · rw [due?_of_free free, due?_of_free (by rw [same]; exact free), same]
        rfl
  | @input input rest up waiting =>
      have arms : next.pipeline.willArm
          = Pipeline.beginsQuietWith run.pipeline.state.settled input := by
        rw [same]
        exact Pipeline.any_inputDuties _ input
      cases begins : Pipeline.beginsQuietWith run.pipeline.state.settled input with
      | true =>
          refine .restarts ⟨⟨rfl, free, up⟩, ⟨rest, waiting⟩, begins⟩ ?_ ?_ now ?_
          · rw [same]
          · rw [same]
          · rw [due?, arms, begins, now, same]
            rfl
      | false =>
          refine .passes ?_ ?_ now.ge ?_ (fun member => (undone member).elim) ?_
          · rintro other ⟨_, ⟨_, waits⟩, beginsToo⟩
            obtain ⟨rfl, _⟩ := List.cons.inj (waiting.symm.trans waits)
            exact Bool.noConfusion (begins.symm.trans beginsToo)
          · rintro ⟨_, nothing, _⟩
            cases nothing.symm.trans waiting
          · rw [same]
            exact iff_of_false (not_convert_mem_inputDuties input) undone
          · rw [due?_of_free free, due?, arms, begins, same]
            rfl
  | deadline up noInput opened elapsed =>
      -- The deadline is not past, as the run is steady, so it is exactly now.
      refine .notices ⟨⟨rfl, free, up⟩, noInput, opened⟩ ?_ ?_ ?_ now ?_
      · rw [due?_of_free free]
        cases deadline : run.pipeline.debouncer.deadline with
        | none => simp [Debouncer.elapsed, deadline] at elapsed
        | some time =>
            have ended : time ≤ run.now := by simpa [Debouncer.elapsed, deadline] using elapsed
            rw [Nat.le_antisymm ended (steady.ahead running time deadline)]
      · rw [same]
      · rw [same]
      · rw [due?, same]
        rfl
  | @completion completion rest noInput early =>
      refine .passes ?_ ?_ now.ge ?_ (fun member => (undone member).elim) ?_
      · rintro input ⟨_, ⟨_, waiting⟩, _⟩
        cases noInput.symm.trans waiting
      · intro _ time due
        rw [due?_of_free free] at due
        simpa [Debouncer.elapsed, due] using early
      · rw [same]
        exact iff_of_false (not_convert_mem_completionDuties completion) undone
      · have arms : (run.pipeline.taking completion rest).willArm = false :=
          Pipeline.any_completionDuties _ completion
        rw [due?_of_free free, due?, same, arms]
        rfl

/-- The conversion that is due is begun. -/
theorem timed_of_convert {rest : List Duty}
    (steady : Steady settings run)
    (now : next.now = run.now)
    (head : run.pipeline.duties = .convert :: rest)
    (performed : Pipeline.Performed run.pipeline .convert rest next.pipeline)
    (arms : next.pipeline.willArm = run.pipeline.willArm) : Timed run (.step .pipeline) next := by
  have alone := steady.ordered.convert_alone (head ▸ List.mem_cons_self)
  obtain ⟨_, rfl⟩ := List.cons.inj (head.symm.trans alone)
  have idle : run.pipeline.willArm = false := by
    rw [Pipeline.willArm, head]
    rfl
  have unarmed := steady.unarmed (head ▸ List.mem_cons_self)
  refine .converts rfl head ?_ now ?_ ?_
  · rw [performed.duties, List.append_nil]
    exact not_convert_mem_added _ _
  · rw [due?, idle, unarmed]
    rfl
  · rw [due?, arms, idle, performed.debouncer (by simp), unarmed]
    rfl

/-- What the pipeline's own task does when it has something left to do. -/
theorem timed_of_busy
    (steady : Steady settings run)
    (moved : run.move settings (.step .pipeline) = some next)
    (busy : run.pipeline.duties ≠ []) : Timed run (.step .pipeline) next := by
  have now : next.now = run.now := now_of_still moved (by simp)
  have calm (input : AmountInput) : ¬ Restarts input ⟨run, .step .pipeline⟩ := fun restarts =>
    not_looks_of_busy busy restarts.looks
  have blind (notices : Notices ⟨run, .step .pipeline⟩) (time : Instant)
      (_ : run.due? = some time) : run.now < time := (not_looks_of_busy busy notices.looks).elim
  have ordered := steady.ordered
  have worked := Pipeline.worked_of_ownStep busy (ownStep_of_move moved).1
  generalize same : next.pipeline = done at worked
  cases worked with
  | waits head =>
      refine .passes calm blind now.ge (by rw [same]) (fun member => ?_) ?_
      · cases head.symm.trans (ordered.convert_alone member)
      · rw [due?, due?, same, now]
  | @tells effect rest head =>
      refine .passes calm blind now.ge ?_ (fun member => ?_) ?_
      · rw [same, head, List.mem_cons]
        exact (or_iff_right (by simp)).symm
      · cases head.symm.trans (ordered.convert_alone member)
      · have arms : ({ run.pipeline with duties := rest } : Pipeline).willArm
            = run.pipeline.willArm := by
          rw [Pipeline.willArm, Pipeline.willArm, head]
          rfl
        rw [due?, due?, same, now, arms]
  | @performs duty rest head silent =>
      have orderedHead : Pipeline.Ordered (duty :: rest) := head ▸ ordered
      have effect := Pipeline.performed settings run.now run.pipeline duty rest
      by_cases converts : duty = .convert
      · subst converts
        have arms := Pipeline.willArm_perform settings run.now orderedHead head (by simp)
        exact timed_of_convert steady now head (same ▸ effect) (same ▸ arms)
      · have notConvert (other : Duty) (tail : List Duty)
            (here : run.pipeline.duties = other :: tail) : other ≠ .convert := by
          rintro rfl
          exact converts (List.cons.inj (head.symm.trans here)).1
        refine .passes calm blind now.ge ?_ (fun member => ?_) ?_
        · rw [same, effect.duties, head, List.mem_append, List.mem_cons,
            or_iff_right (not_convert_mem_added _ _), or_iff_right (Ne.symm converts)]
        · exact (notConvert _ _ (ordered.convert_alone member) rfl).elim
        · by_cases arms : duty = .arm
          · subst arms
            have willArm : run.pipeline.willArm = true := by
              rw [Pipeline.willArm, head]
              rfl
            rw [due?, due?, same, willArm, Pipeline.willArm_arm settings run.now orderedHead]
            rfl
          · have willArm := Pipeline.willArm_perform settings run.now orderedHead head arms
            rw [due?, due?, same, now, willArm, effect.debouncer arms]

/-- **What a move does to the quiet period**: it begins it, notices its end, begins the conversion
that is due, or leaves it as it is. -/
theorem timed_of_move
    (steady : Steady settings run)
    (moved : run.move settings event = some next)
    (reads : ∀ milliseconds, event = .advance milliseconds → run.pipeline.duties = []) :
    Timed run event next := by
  by_cases own : event = .step .pipeline
  · subst own
    by_cases free : run.pipeline.duties = []
    · exact timed_of_free steady moved free
    · exact timed_of_busy steady moved free
  · obtain ⟨state, debouncer, duties, _⟩ := untouched_of_move moved own
    have still (busy : run.pipeline.duties ≠ []) : next.now = run.now :=
      now_of_still moved fun milliseconds advances => busy (reads milliseconds advances)
    refine .passes (fun _ restarts => own restarts.looks.own)
      (fun notices => (own notices.looks.own).elim) ?_ (by rw [duties])
      (fun member => ⟨own, state, still (List.ne_nil_of_mem member)⟩) ?_
    · rcases now_of_move moved with same | ⟨milliseconds, _, later⟩
      · exact same.ge
      · rw [later]
        exact Nat.le_add_right _ _
    · by_cases free : run.pipeline.duties = []
      · rw [due?_of_free free, due?_of_free (duties.trans free), debouncer]
      · have arms : next.pipeline.willArm = run.pipeline.willArm := by
          rw [Pipeline.willArm, Pipeline.willArm, state, duties]
        rw [due?, due?, arms, still free, debouncer]

/-! ## Every run -/

/-- A punctual move keeps a run steady. -/
theorem Steady.move
    (steady : Steady settings run)
    (moved : run.move settings event = some next)
    (ordered : Pipeline.Ordered next.pipeline.duties)
    (exact : IsExact settings ⟨run, event⟩)
    (reads : ∀ milliseconds, event = .advance milliseconds → run.pipeline.duties = []) :
    Steady settings next := by
  have unarmed : .convert ∈ next.pipeline.duties → next.pipeline.debouncer.deadline = none := by
    intro member
    have alone := ordered.convert_alone member
    have undue (undue : next.due? = none) : next.pipeline.debouncer.deadline = none := by
      have idle : next.pipeline.willArm = false := by
        rw [Pipeline.willArm, alone]
        rfl
      rwa [due?, idle] at undue
    cases timed_of_move steady moved reads with
    | restarts _ duties _ _ _ => exact (not_convert_mem_inputDuties _ (duties ▸ member)).elim
    | notices _ _ _ _ _ due => exact undue due
    | converts _ _ done _ _ _ => exact (done member).elim
    | passes _ _ _ converts _ due =>
        have before := converts.mp member
        have idle : run.pipeline.willArm = false := by
          rw [Pipeline.willArm, steady.ordered.convert_alone before]
          rfl
        refine undue (due.trans ?_)
        rw [due?, idle, steady.unarmed before]
        rfl
  by_cases own : event = .step .pipeline
  · subst own
    have now : next.now = run.now := now_of_still moved (by simp)
    have running := running_of_move moved
    rcases Pipeline.debouncer_ownStep (ownStep_of_move moved).1 with same | same | same
    · refine ⟨same ▸ steady.window, ordered, unarmed, fun _ deadline set => ?_⟩
      rw [now]
      exact steady.ahead running deadline (same ▸ set)
    · refine ⟨same ▸ steady.window, ordered, unarmed, fun _ deadline set => ?_⟩
      rw [same, Debouncer.deadline_arm] at set
      rw [now, ← Option.some.inj set]
      exact Nat.le_add_right _ _
    · refine ⟨same ▸ steady.window, ordered, unarmed, fun _ deadline set => ?_⟩
      rw [same] at set
      cases set
  · have untouched := untouched_of_move moved own
    refine ⟨untouched.debouncer ▸ steady.window, ordered, unarmed, fun running deadline set => ?_⟩
    rw [untouched.running] at running
    rw [untouched.debouncer] at set
    rcases now_of_move moved with same | ⟨milliseconds, advances, later⟩
    · rw [same]
      exact steady.ahead running deadline set
    · rw [later]
      exact (exact milliseconds advances).2 running (reads milliseconds advances) deadline set

/-- A punctual run is steady: what is due does not lie in the past. -/
theorem steady_of_reaches
    (reached : Reaches (PipelineRun.move settings) (PipelineRun.start settings) past run)
    (punctual : IsPunctual settings past) : Steady settings run := by
  induction reached with
  | start =>
      exact ⟨rfl, .nil, fun member => absurd member List.not_mem_nil, fun _ _ same => by cases same⟩
  | step earlier moved ih =>
      obtain ⟨⟨exact, reads⟩, before⟩ := List.forall_mem_cons.mp punctual
      have ordered := Pipeline.ordered_of_reaches (reaches_turns (earlier.step moved))
      exact (ih before).move moved ordered exact reads

/-- What is due is what the history says. -/
theorem quietUntil_iff
    (reached : Reaches (PipelineRun.move settings) (PipelineRun.start settings) past run)
    (punctual : IsPunctual settings past) (time : Instant) :
    QuietUntil settings.window time past ↔ run.due? = some time := by
  induction reached generalizing time with
  | start =>
      refine iff_of_false (fun since => by cases since) fun due => ?_
      cases due
  | @step past run next event earlier moved ih =>
      obtain ⟨⟨_, reads⟩, before⟩ := List.forall_mem_cons.mp punctual
      have steady := steady_of_reaches earlier before
      have ih := ih before
      -- Unless the quiet period is begun again at this moment, it goes on from before.
      have calmed (calm : ∀ input, ¬ Restarts input ⟨run, event⟩)
          (since : QuietUntil settings.window time (⟨run, event⟩ :: past)) :
          run.due? = some time ∧ (Notices ⟨run, event⟩ → run.now < time) := by
        cases since with
        | now happened => exact (calm _ happened.1.choose_spec).elim
        | later kept before => exact ⟨(ih time).mp before, kept.2⟩
      cases timed_of_move steady moved reads with
      | restarts restarts _ _ _ due =>
          rw [due, steady.window, Option.some.injEq]
          refine ⟨fun since => ?_, fun same => .now ⟨⟨_, restarts⟩, same⟩⟩
          cases since with
          | now happened => exact happened.2
          | later kept _ => exact (kept.1 _ restarts).elim
      | notices notices elapsed _ _ _ due =>
          rw [due]
          refine iff_of_false (fun since => ?_) (by simp)
          have calm (input : AmountInput) : ¬ Restarts input ⟨run, event⟩ := fun restarts => by
            obtain ⟨_, waiting⟩ := restarts.waiting
            cases notices.noInput.symm.trans waiting
          obtain ⟨same, early⟩ := calmed calm since
          obtain rfl := Option.some.inj (elapsed.symm.trans same)
          exact Nat.lt_irrefl _ (early notices)
      | converts _ duties _ _ undue due =>
          have busy : run.pipeline.duties ≠ [] := by simp [duties]
          rw [due]
          refine iff_of_false (fun since => ?_) (by simp)
          have calm (input : AmountInput) : ¬ Restarts input ⟨run, event⟩ := fun restarts =>
            not_looks_of_busy busy restarts.looks
          cases undue.symm.trans (calmed calm since).1
      | passes calm early _ _ _ due =>
          rw [due]
          exact ⟨fun since => (calmed calm since).1,
            fun same => .later ⟨calm, fun notices => early notices time same⟩ ((ih time).mpr same)⟩

/-- The quiet period falls due exactly when its end is noticed. -/
theorem fallsDue_iff
    (reached : Reaches (PipelineRun.move settings) (PipelineRun.start settings) past run)
    (punctual : IsPunctual settings past) :
    FallsDue settings.window ⟨run, event⟩ past
      ↔ Notices ⟨run, event⟩ ∧ run.due? = some run.now := by
  rw [FallsDue, quietUntil_iff reached punctual]

end PipelineRun

end WalletTopUp
