import WalletTopUp.Proofs.Pipeline.QuietPeriod

/-!
# Rejected edits are invisible

A text that is no amount asks for nothing, so an edit with such a text does no more than stand in
the queue until it is taken.  A run in which it comes and a run without it are compared moment by
moment: they pass through the same states, but for the inputs that wait, at the same times, and the
only moment that one has and the other does not is the one at which the edit is taken
(`PipelineRun.rejected_edit_invisible`).

A sender that finds no place in the queue waits behind it, so inputs are lined up here without
regard to the places (`PipelineRun.play`).
-/

namespace WalletTopUp

namespace Pipeline

/-- The pipeline with other inputs waiting. -/
def withInputs (pipeline : Pipeline) (inputs : List AmountInput) : Pipeline :=
  { pipeline with inputs }

variable {settings : PipelineSettings} (pipeline : Pipeline) (inputs : List AmountInput)

/-! ## What does not depend on the inputs that wait -/

/-- A duty neither reads nor changes the queue of inputs. -/
theorem perform_withInputs (now : Instant) (duty : Duty) :
    (pipeline.withInputs inputs).perform settings now duty
      = (pipeline.perform settings now duty).withInputs inputs := by
  cases duty with
  | rearm =>
      by_cases settled : pipeline.state.settled = true <;>
        simp only [perform, withInputs, settled, if_true, if_false, Bool.false_eq_true]
      rfl
  | revalidate =>
      by_cases settled : pipeline.state.settled = true <;>
        simp only [perform, withInputs, settled, if_true, if_false, Bool.false_eq_true]
      rfl
  | validateWaiting =>
      by_cases due : (pipeline.state.settled && pipeline.state.bounds.isNone) = true <;>
        simp only [perform, withInputs, due, if_true, if_false, Bool.false_eq_true]
      rfl
  | forecast =>
      cases fiat : pipeline.state.entry.fiat.positive? <;>
        simp only [perform, withInputs, fiat]
      rfl
  | loadLimits =>
      cases known : pipeline.state.limits <;> cases load : pipeline.limits <;>
        simp only [perform, startLimits, withInputs, known, load]
  | convert =>
      cases source : pipeline.state.entry.source with
      | value amount =>
          by_cases positive : amount.isPositive = true <;>
            simp only [perform, withInputs, source, positive, if_true, if_false,
              Bool.false_eq_true] <;> rfl
      | _ => simp only [perform, withInputs, source]; rfl
  | _ => rfl

/-- A step of the pipeline's own task that takes no input does not depend on those that wait. -/
theorem step_withInputs {now : Instant} {sink : Sink TaskName}
    (other : pipeline.running = true → pipeline.duties = [] → sink.shutdown.isDown = true) :
    (pipeline.withInputs inputs).step settings now sink
      = (pipeline.step settings now sink).map fun next => (next.1.withInputs inputs, next.2) := by
  by_cases running : pipeline.running = true
  · have goesOn : ¬ (!pipeline.running) = true := by simp only [running, Bool.not_true]; simp
    have goesOnToo : ¬ (!(pipeline.withInputs inputs).running) = true := goesOn
    rw [step, step, if_neg goesOn, if_neg goesOnToo]
    cases duties : pipeline.duties with
    | nil =>
        have dutiesToo : (pipeline.withInputs inputs).duties = [] := duties
        simp only [dutiesToo, takeNext, other running duties, if_true, Option.map_some]
        rfl
    | cons duty rest =>
        have dutiesToo : (pipeline.withInputs inputs).duties = duty :: rest := duties
        cases duty with
        | emit effect =>
            simp only [dutiesToo]
            split
            · split <;> rfl
            · rfl
        | _ =>
            simp only [dutiesToo, Option.map_some]
            exact congrArg (fun next => some (next, sink))
              (perform_withInputs { pipeline with duties := rest } inputs now _)
  · have stopped : (!pipeline.running) = true := by simp only [running]; rfl
    have stoppedToo : (!(pipeline.withInputs inputs).running) = true := stopped
    rw [step, step, if_pos stopped, if_pos stoppedToo, Option.map_none]

/-- No task reads the queue of inputs to put its request. -/
theorem ask?_withInputs (task : TaskName) :
    (pipeline.withInputs inputs).ask? task
      = (pipeline.ask? task).map fun asks =>
          (asks.1, fun call => (asks.2 call).withInputs inputs) := by
  cases task with
  | conversion | bonus =>
      simp only [ask?, withInputs]
      split
      · rfl
      · rw [Option.map_map]
        rfl
  | limits =>
      simp only [ask?, withInputs]
      split
      · rw [Option.map_map]
        rfl
      · rfl
  | session | pipeline | setup | payment => rfl

/-- No task reads the queue of inputs to finish. -/
theorem finish_withInputs (task : TaskName) :
    (pipeline.withInputs inputs).finish task
      = (pipeline.finish task).map fun next => next.withInputs inputs := by
  cases task with
  | conversion | bonus =>
      simp only [finish, finishConversion, finishBonus, withInputs]
      split
      · rfl
      · rw [Option.map_map]
        rfl
  | limits =>
      simp only [finish, finishLimits, withInputs]
      split
      · rw [Option.map_map]
        rfl
      · rfl
  | session | pipeline | setup | payment => rfl

end Pipeline

namespace PipelineRun

variable {settings : PipelineSettings} {run next : PipelineRun} {inputs : List AmountInput}
  {text : String}

/-! ## Runs in which senders line up -/

/-- The run after a move.  A sender that finds no place waits behind the queue, so its input comes
in the same order as if there were a place. -/
def play (settings : PipelineSettings) (run : PipelineRun) : Move → Option PipelineRun
  | .send input =>
    if run.pipeline.running && run.pipeline.inputsOpen then
      some { run with pipeline := run.pipeline.send input }
    else none
  | move => run.move settings move

/-- The run with other inputs waiting. -/
def withInputs (run : PipelineRun) (inputs : List AmountInput) : PipelineRun :=
  { run with pipeline := run.pipeline.withInputs inputs }

/-- Everything of a run but the inputs that wait: the time, the published state, the effects, the
calls and the work under way. -/
def scene (run : PipelineRun) : PipelineRun := run.withInputs []

/-- Whether the pipeline's own task would take an input that is waiting. -/
def takesInput (run : PipelineRun) : Bool :=
  run.pipeline.running && run.pipeline.duties.isEmpty && !run.sink.shutdown.isDown

/-- Whether an edit with a text that is no amount is taken at this moment. -/
def takesRejected (moment : Moment PipelineRun Move) : Bool :=
  match moment.event, moment.before.pipeline.inputs with
  | .step .pipeline, .edit text :: _ =>
    moment.before.takesInput && (AmountValue.ofText? text).isNone
  | _, _ => false

/-- What is seen of a moment: what happens, and in which state.  Of the moment at which a rejected
edit is taken nothing is seen. -/
def glimpse? (moment : Moment PipelineRun Move) : Option (Moment PipelineRun Move) :=
  if takesRejected moment then none else some ⟨moment.before.scene, moment.event⟩

/-- Everything that is seen of a run: what has happened, the answers and the other inputs included,
and the state and the time of each of it. -/
def timeline (past : List (Moment PipelineRun Move)) : List (Moment PipelineRun Move) :=
  past.filterMap glimpse?

/-- A moment adds the glimpse it shows, if it shows one. -/
theorem timeline_cons (moment : Moment PipelineRun Move) (past : List (Moment PipelineRun Move)) :
    timeline (moment :: past) = (glimpse? moment).toList ++ timeline past := by
  rw [timeline, timeline, List.filterMap_cons]
  cases glimpse? moment <;> rfl

/-! ## An input more or less in the queue -/

variable (settings) in
/-- A pipeline that may take an input takes the first one with its next step. -/
theorem step_of_takesInput {input : AmountInput} {rest : List AmountInput}
    (takes : run.takesInput = true)
    (waiting : run.pipeline.inputs = input :: rest) :
    run.step settings .pipeline = some
      { run with
        pipeline := { run.pipeline with
          inputs := rest, duties := Pipeline.inputDuties input } } := by
  simp only [takesInput, Bool.and_eq_true, List.isEmpty_iff, Bool.not_eq_true'] at takes
  obtain ⟨⟨running, free⟩, up⟩ := takes
  simp only [step, Pipeline.ask?, Pipeline.step, running, free, Pipeline.takeNext, up, waiting,
    Bool.not_true, Bool.false_eq_true, if_false, Option.map_some]

/-- A step that takes no input does not depend on the inputs that wait. -/
theorem step_withInputs {task : TaskName}
    (other : task = .pipeline → run.takesInput = false) :
    (run.withInputs inputs).step settings task
      = (run.step settings task).map fun next => next.withInputs inputs := by
  have asks := Pipeline.ask?_withInputs run.pipeline inputs task
  have ends := Pipeline.finish_withInputs run.pipeline inputs task
  unfold step
  simp only [withInputs]
  rw [asks]
  cases run.pipeline.ask? task with
  | some call => rfl
  | none =>
      simp only [Option.map_none]
      cases task with
      | pipeline =>
          have busy (running : run.pipeline.running = true) (free : run.pipeline.duties = []) :
              run.sink.shutdown.isDown = true := by
            have takes := other rfl
            simpa only [takesInput, running, free, List.isEmpty_nil, Bool.and_self, Bool.true_and,
              Bool.not_eq_false'] using takes
          simp only
          rw [Pipeline.step_withInputs run.pipeline inputs busy, Option.map_map, Option.map_map]
          rfl
      | _ =>
          simp only
          rw [ends, Option.map_map, Option.map_map]
          rfl

variable (settings inputs) in
/-- What a move does that takes no input does not depend on the inputs that wait. -/
theorem play_withInputs {event : Move}
    (other : event = .step .pipeline → run.takesInput = false) :
    (run.withInputs inputs).play settings event
      = (run.play settings event).map fun next =>
          next.withInputs (inputs ++ event.input?.toList) := by
  cases event with
  | step task =>
      simp only [play, move, Move.input?, Option.toList_none, List.append_nil]
      exact step_withInputs fun same => other (congrArg Move.step same)
  | send input =>
      by_cases opened : (run.pipeline.running && run.pipeline.inputsOpen) = true
      · have openedToo : ((run.withInputs inputs).pipeline.running
            && (run.withInputs inputs).pipeline.inputsOpen) = true := opened
        rw [play, play, if_pos opened, if_pos openedToo]
        rfl
      · have closedToo : ¬ ((run.withInputs inputs).pipeline.running
            && (run.withInputs inputs).pipeline.inputsOpen) = true := opened
        rw [play, play, if_neg opened, if_neg closedToo]
        rfl
  | take =>
      simp only [play, move, Move.input?, Option.toList_none, List.append_nil, withInputs,
        Option.map_map]
      rfl
  | _ =>
      simp only [play, move, Move.input?, Option.toList_none, List.append_nil, Option.map_some]
      rfl

/-- What a move that takes no input leaves waiting is what waited, and the input that it brings. -/
theorem inputs_of_play {event : Move}
    (other : event = .step .pipeline → run.takesInput = false)
    (played : run.play settings event = some next) :
    next.pipeline.inputs = run.pipeline.inputs ++ event.input?.toList := by
  have same := play_withInputs settings run.pipeline.inputs other
  rw [show run.withInputs run.pipeline.inputs = run from rfl, played, Option.map_some] at same
  exact congrArg (fun run => run.pipeline.inputs) (Option.some.inj same)

/-- Where time passes exactly, nothing waits that could be taken. -/
theorem takesInput_of_isExact {milliseconds : Nat}
    (exact : IsExact settings ⟨run, .advance milliseconds⟩)
    (waiting : run.pipeline.inputs ≠ []) : run.takesInput = false := by
  obtain ⟨input, rest, inputs⟩ := List.exists_cons_of_ne_nil waiting
  by_contra takes
  have idle : run.step settings .pipeline = none := (exact milliseconds rfl).1 .pipeline
  rw [step_of_takesInput settings (Bool.eq_true_of_not_eq_false takes) inputs] at idle
  cases idle

/-- Whether time passes exactly does not depend on inputs that are not taken. -/
theorem isExact_withInputs {event : Move} (busy : run.takesInput = false) :
    IsExact settings ⟨run.withInputs inputs, event⟩ ↔ IsExact settings ⟨run, event⟩ := by
  have still (task : TaskName) :
      (run.withInputs inputs).step settings task = none ↔ run.step settings task = none := by
    rw [step_withInputs fun _ => busy, Option.map_eq_none_iff]
  simp only [IsExact, still]
  rfl

/-! ## A run with a rejected edit beside one without -/

/-- How a run stands to one in which a rejected edit has come besides: the edit still waits among
the inputs, or it has been taken. -/
inductive Slipped (text : String) (run : PipelineRun) : PipelineRun → Prop where
  | taken : Slipped text run run
  | waiting {front back : List AmountInput} (inputs : run.pipeline.inputs = front ++ back) :
      Slipped text run (run.withInputs (front ++ .edit text :: back))

/-- Taking a rejected edit leaves the run as if the edit had never come. -/
theorem play_rejected (rejected : AmountValue.ofText? text = none) (takes : run.takesInput = true) :
    (run.withInputs (.edit text :: run.pipeline.inputs)).play settings (.step .pipeline)
      = some run := by
  have free : run.pipeline.duties = [] := by
    simp only [takesInput, Bool.and_eq_true, List.isEmpty_iff] at takes
    exact takes.1.2
  have head : (run.withInputs (.edit text :: run.pipeline.inputs)).pipeline.inputs
      = .edit text :: run.pipeline.inputs := rfl
  have takesToo : (run.withInputs (.edit text :: run.pipeline.inputs)).takesInput = true := takes
  have nothing : Pipeline.inputDuties (.edit text) = [] := by
    simp only [Pipeline.inputDuties, rejected]
  have taken := step_of_takesInput settings takesToo head
  rw [nothing, ← free] at taken
  exact taken

/-- Of the moment at which a rejected edit is taken nothing is seen. -/
theorem glimpse?_rejected (rejected : AmountValue.ofText? text = none)
    (takes : run.takesInput = true) (rest : List AmountInput) :
    glimpse? ⟨run.withInputs (.edit text :: rest), .step .pipeline⟩ = none := by
  have taken : takesRejected ⟨run.withInputs (.edit text :: rest), .step .pipeline⟩ = true := by
    change (run.takesInput && (AmountValue.ofText? text).isNone) = true
    rw [takes, rejected]
    rfl
  rw [glimpse?, if_pos taken]

/-- Nothing is taken where no step of the pipeline's own task can take an input. -/
theorem takesRejected_of_not {event : Move}
    (kept : ¬ (event = .step .pipeline ∧ run.takesInput = true)) :
    takesRejected ⟨run, event⟩ = false := by
  unfold takesRejected
  split
  · next same _ =>
      rw [Bool.eq_false_iff.mpr fun yes => kept ⟨same, yes⟩, Bool.false_and]
  · rfl

section Waiting

variable {event : Move} {front back : List AmountInput}

/-- A move that does not take the rejected edit is a move of both runs. -/
theorem play_waiting (inputs : run.pipeline.inputs = front ++ back)
    (kept : event = .step .pipeline → run.takesInput = true → front ≠ []) :
    Option.Rel (Slipped text) (run.play settings event)
      ((run.withInputs (front ++ .edit text :: back)).play settings event) := by
  by_cases takes : event = .step .pipeline ∧ run.takesInput = true
  · obtain ⟨rfl, takes⟩ := takes
    obtain ⟨input, rest, rfl⟩ := List.exists_cons_of_ne_nil (kept rfl takes)
    have head : (run.withInputs (input :: rest ++ .edit text :: back)).pipeline.inputs
        = input :: (rest ++ .edit text :: back) := rfl
    have takesToo : (run.withInputs (input :: rest ++ .edit text :: back)).takesInput = true :=
      takes
    have without := step_of_takesInput settings takes inputs
    have besides := step_of_takesInput settings takesToo head
    have slipped : Slipped text
        { run with pipeline := { run.pipeline with
            inputs := rest ++ back, duties := Pipeline.inputDuties input } } _ :=
      .waiting rfl
    simp only [play, move, without, besides]
    exact .some slipped
  · have busy (same : event = .step .pipeline) : run.takesInput = false :=
      Bool.eq_false_iff.mpr fun yes => takes ⟨same, yes⟩
    rw [play_withInputs settings _ busy]
    cases played : run.play settings event with
    | none => exact .none
    | some next =>
        have left : next.pipeline.inputs = front ++ (back ++ event.input?.toList) := by
          rw [inputs_of_play busy played, inputs, List.append_assoc]
        rw [Option.map_some, List.append_assoc, List.cons_append]
        exact .some (.waiting left)

/-- A move that does not take the rejected edit looks the same in both runs. -/
theorem glimpse?_waiting (inputs : run.pipeline.inputs = front ++ back)
    (kept : event = .step .pipeline → run.takesInput = true → front ≠ []) :
    glimpse? ⟨run.withInputs (front ++ .edit text :: back), event⟩ = glimpse? ⟨run, event⟩ := by
  have same : takesRejected ⟨run.withInputs (front ++ .edit text :: back), event⟩
      = takesRejected ⟨run, event⟩ := by
    by_cases takes : event = .step .pipeline ∧ run.takesInput = true
    · obtain ⟨rfl, takes⟩ := takes
      obtain ⟨input, rest, rfl⟩ := List.exists_cons_of_ne_nil (kept rfl takes)
      simp only [takesRejected, withInputs, Pipeline.withInputs, inputs, List.cons_append]
      cases input <;> rfl
    · have takesToo : ¬ (event = .step .pipeline
          ∧ (run.withInputs (front ++ .edit text :: back)).takesInput = true) := takes
      rw [takesRejected_of_not takes, takesRejected_of_not takesToo]
  rw [glimpse?, glimpse?, same]
  rfl

/-- Where time passes exactly in the run with the edit, it does in the run without. -/
theorem isExact_of_waiting
    (exact : IsExact settings ⟨run.withInputs (front ++ .edit text :: back), event⟩) :
    IsExact settings ⟨run, event⟩ := by
  intro milliseconds same
  obtain rfl : event = .advance milliseconds := same
  have busy : (run.withInputs (front ++ .edit text :: back)).takesInput = false :=
    takesInput_of_isExact exact (List.append_ne_nil_of_right_ne_nil front (List.cons_ne_nil _ _))
  have busyToo : run.takesInput = false := busy
  exact (isExact_withInputs busyToo).mp exact milliseconds rfl

/-- Where time passes exactly in the run without the edit, it does in the run with it, unless the
edit could be taken. -/
theorem isExact_waiting (inputs : run.pipeline.inputs = front ++ back)
    (kept : run.takesInput = true → front ≠ [])
    (exact : IsExact settings ⟨run, event⟩) :
    IsExact settings ⟨run.withInputs (front ++ .edit text :: back), event⟩ := by
  intro milliseconds same
  obtain rfl : event = .advance milliseconds := same
  have busy : run.takesInput = false := by
    by_contra takes
    have first := kept (Bool.eq_true_of_not_eq_false takes)
    have waiting : run.pipeline.inputs ≠ [] := by
      rw [inputs]
      exact List.append_ne_nil_of_left_ne_nil first back
    exact takes (takesInput_of_isExact exact waiting)
  exact (isExact_withInputs busy).mpr exact milliseconds rfl

end Waiting

/-- A move of the run with the rejected edit takes the edit, or the run without makes it too. -/
theorem Slipped.play_without {other next' : PipelineRun} {event : Move}
    (rejected : AmountValue.ofText? text = none)
    (slipped : Slipped text run other)
    (played : other.play settings event = some next') :
    (next' = run ∧ glimpse? ⟨other, event⟩ = none ∧ event = .step .pipeline) ∨
      ∃ next, run.play settings event = some next ∧ Slipped text next next'
        ∧ glimpse? ⟨other, event⟩ = glimpse? ⟨run, event⟩
        ∧ (IsExact settings ⟨other, event⟩ → IsExact settings ⟨run, event⟩) := by
  cases slipped with
  | taken => exact .inr ⟨next', played, .taken, rfl, fun exact => exact⟩
  | @waiting front back inputs =>
      by_cases first : event = .step .pipeline ∧ run.takesInput = true ∧ front = []
      · obtain ⟨rfl, takes, rfl⟩ := first
        obtain rfl : run.pipeline.inputs = back := inputs
        rw [List.nil_append, play_rejected rejected takes] at played
        exact .inl ⟨(Option.some.inj played).symm, glimpse?_rejected rejected takes _, rfl⟩
      · have kept (same : event = .step .pipeline) (takes : run.takesInput = true) : front ≠ [] :=
          fun none => first ⟨same, takes, none⟩
        have both : Option.Rel (Slipped text) (run.play settings event) (some next') :=
          played ▸ play_waiting inputs kept
        cases alone : run.play settings event with
        | none =>
            rw [alone] at both
            cases both
        | some next =>
            rw [alone] at both
            cases both with
            | some slipped =>
                exact .inr ⟨next, rfl, slipped, glimpse?_waiting inputs kept, isExact_of_waiting⟩

/-- A run without the rejected edit goes along with every run that has it. -/
theorem Slipped.without {start start' last' : PipelineRun} {past' : List (Moment PipelineRun Move)}
    (rejected : AmountValue.ofText? text = none)
    (slipped : Slipped text start start')
    (reached : Reaches (play settings) start' past' last') :
    ∃ past last, Reaches (play settings) start past last ∧ Slipped text last last'
      ∧ timeline past = timeline past'
      ∧ ((∀ moment ∈ past', IsExact settings moment) →
          ∀ moment ∈ past, IsExact settings moment) := by
  induction reached with
  | start => exact ⟨[], start, .start, slipped, rfl, fun exact => exact⟩
  | @step past' middle' last' event _ moved ih =>
      obtain ⟨past, middle, reached, slipped, same, exact⟩ := ih
      rcases slipped.play_without rejected moved with
        ⟨rfl, unseen, -⟩ | ⟨last, played, slipped, seen, exactHere⟩
      · refine ⟨past, _, reached, .taken, ?_, fun all => exact (List.forall_mem_cons.mp all).2⟩
        rw [timeline_cons, unseen, same]
        rfl
      · refine ⟨⟨middle, event⟩ :: past, last, .step reached played, slipped, ?_, fun all => ?_⟩
        · rw [timeline_cons, timeline_cons, seen, same]
        · obtain ⟨here, before⟩ := List.forall_mem_cons.mp all
          exact List.forall_mem_cons.mpr ⟨exactHere here, exact before⟩

/-- The run with the rejected edit comes, without anything being seen of it, to where it makes every
move that the run without makes. -/
theorem Slipped.play_besides {other next : PipelineRun} {event : Move}
    (rejected : AmountValue.ofText? text = none)
    (slipped : Slipped text run other)
    (played : run.play settings event = some next) :
    ∃ hidden middle next', Reaches (play settings) other hidden middle ∧ timeline hidden = []
      ∧ (∀ moment ∈ hidden, IsExact settings moment)
      ∧ middle.play settings event = some next' ∧ Slipped text next next'
      ∧ glimpse? ⟨middle, event⟩ = glimpse? ⟨run, event⟩
      ∧ (IsExact settings ⟨run, event⟩ → IsExact settings ⟨middle, event⟩) := by
  have stays : ∀ moment ∈ ([] : List (Moment PipelineRun Move)), IsExact settings moment :=
    fun _ member => absurd member List.not_mem_nil
  cases slipped with
  | taken =>
      exact ⟨[], run, next, .start, rfl, stays, played, .taken, rfl, fun exact => exact⟩
  | @waiting front back inputs =>
      by_cases first : run.takesInput = true ∧ front = []
      · obtain ⟨takes, rfl⟩ := first
        obtain rfl : run.pipeline.inputs = back := inputs
        refine ⟨[⟨_, .step .pipeline⟩], run, next, .step .start (play_rejected rejected takes), ?_,
          ?_, played, .taken, rfl, fun exact => exact⟩
        · rw [List.nil_append, timeline_cons, glimpse?_rejected rejected takes]
          rfl
        · refine List.forall_mem_cons.mpr ⟨fun _ same => ?_, stays⟩
          cases same
      · have kept (takes : run.takesInput = true) : front ≠ [] := fun none => first ⟨takes, none⟩
        have both : Option.Rel (Slipped text) (some next)
            ((run.withInputs (front ++ .edit text :: back)).play settings event) :=
          played ▸ play_waiting inputs fun _ => kept
        cases besides : (run.withInputs (front ++ .edit text :: back)).play settings event with
        | none =>
            rw [besides] at both
            cases both
        | some next' =>
            rw [besides] at both
            cases both with
            | some slipped =>
                exact ⟨[], _, next', .start, rfl, stays, besides, slipped,
                  glimpse?_waiting inputs fun _ => kept, isExact_waiting inputs kept⟩

/-- A run with the rejected edit goes along with every run that does without. -/
theorem Slipped.besides {start start' last : PipelineRun} {past : List (Moment PipelineRun Move)}
    (rejected : AmountValue.ofText? text = none)
    (slipped : Slipped text start start')
    (reached : Reaches (play settings) start past last) :
    ∃ past' last', Reaches (play settings) start' past' last' ∧ Slipped text last last'
      ∧ timeline past' = timeline past
      ∧ ((∀ moment ∈ past, IsExact settings moment) →
          ∀ moment ∈ past', IsExact settings moment) := by
  induction reached with
  | start => exact ⟨[], start', .start, slipped, rfl, fun exact => exact⟩
  | @step past middle last event _ moved ih =>
      obtain ⟨past', middle', reached', slipped, same, exact⟩ := ih
      obtain ⟨hidden, ready, last', more, unseen, exactHidden, played, slippedThen, seen,
        exactHere⟩ := slipped.play_besides rejected moved
      refine ⟨⟨ready, event⟩ :: (hidden ++ past'), last', .step (reached'.trans more) played,
        slippedThen, ?_, fun all => ?_⟩
      · have nothing : timeline (hidden ++ past') = timeline past' := by
          rw [timeline, List.filterMap_append]
          exact congrArg (· ++ timeline past') unseen
        rw [timeline_cons, timeline_cons, seen, nothing, same]
      · obtain ⟨here, before⟩ := List.forall_mem_cons.mp all
        refine List.forall_mem_cons.mpr ⟨exactHere here, fun moment member => ?_⟩
        rcases List.mem_append.mp member with late | early
        · exact exactHidden moment late
        · exact exact before moment early

/-! ## What is seen of a run with a rejected edit -/

/-- The run may go on so that this is seen of it and it comes to this scene.  With exact timers time
passes only where nothing else can happen, and no further than to the end of the quiet period. -/
def Shows (settings : PipelineSettings) (exact : Bool) (run : PipelineRun)
    (seen : List (Moment PipelineRun Move)) (last : PipelineRun) : Prop :=
  ∃ past result, Reaches (play settings) run past result
    ∧ (exact = true → ∀ moment ∈ past, IsExact settings moment)
    ∧ timeline past = seen ∧ result.scene = last

/-- Ten euros have been typed, and the quiet period has begun. -/
def Sample.quiet : PipelineRun := after (start {}) ([.send (.edit "10")] ++ own 6)

/-- The quiet period ends. -/
def Sample.elapsed : PipelineRun := after quiet [.advance 700]

/-- The conversion has begun. -/
def Sample.converting : PipelineRun := after elapsed (own 2)

/-- The conversion is put to the broker. -/
def Sample.asked : PipelineRun := after converting [.step .conversion]

end PipelineRun

end WalletTopUp
