import WalletTopUp.Pipeline.Run
import WalletTopUp.Proofs.History

/-!
# Turns of a pipeline

A pipeline may be part of a run of its own or of a whole screen.  What happens to it is the same in
both: its own task takes a step, one of its background tasks asks, ends or hears an answer, or an
input comes.  These are its turns.  `Pipeline.OwnStep` says everything that a step of its own task
can do, and `PipelineRun.turns` reads the turns of a pipeline off the history of its run.
-/

namespace WalletTopUp

namespace Pipeline

/-- Something that happens to a pipeline. -/
inductive Turn where
  /-- The pipeline's own task takes a step. -/
  | own (now : Instant) (sink : Sink TaskName)
  /-- A background task puts out a request as the call of this number. -/
  | ask (task : TaskName) (call : CallId)
  /-- A background task ends. -/
  | finish (task : TaskName)
  /-- A call is answered. -/
  | hear (call : CallId) (server : Server)
  /-- An input comes. -/
  | send (input : AmountInput)
  /-- There are no more inputs. -/
  | close

/-- The pipeline after a turn, `none` if the turn is not possible. -/
def turn (settings : PipelineSettings) (pipeline : Pipeline) : Turn → Option Pipeline
  | .own now sink => (pipeline.step settings now sink).map Prod.fst
  | .ask task call => (pipeline.ask? task).map fun (_, resume) => resume call
  | .finish task => pipeline.finish task
  | .hear call server => some (pipeline.hear call server)
  | .send input => some (pipeline.send input)
  | .close => some { pipeline with inputsOpen := false }

/-- What has happened to a pipeline, the latest first. -/
abbrev History : Type := List (Moment Pipeline Turn)

/-! ## Steps of the pipeline's own task -/

/-- The pipeline once it has taken a completion. -/
def taking (pipeline : Pipeline) (completion : Completion) (rest : List Completion) : Pipeline :=
  { pipeline with
    completions := rest
    limits := match completion with
      | .limitsLoaded _ => .idle
      | _ => pipeline.limits
    duties := pipeline.completionDuties completion }

/-- Whether the pipeline has nothing left to do of what it took last, and no input is waiting. -/
def IsCaughtUp (pipeline : Pipeline) : Prop := pipeline.duties = [] ∧ pipeline.inputs = []

/-- Everything that a step of the pipeline's own task can do. -/
inductive OwnStep (settings : PipelineSettings) (now : Instant) (sink : Sink TaskName)
    (pipeline : Pipeline) : Pipeline → Prop where
  | stops
      (free : pipeline.duties = [])
      (ending : sink.shutdown.isDown = true ∨ pipeline.inputsOpen = false) :
      OwnStep settings now sink pipeline pipeline.stop
  | input {input : AmountInput} {rest : List AmountInput}
      (free : pipeline.duties = [])
      (waiting : pipeline.inputs = input :: rest) :
      OwnStep settings now sink pipeline
        { pipeline with inputs := rest, duties := inputDuties input }
  | deadline
      (caughtUp : pipeline.IsCaughtUp)
      (elapsed : pipeline.debouncer.elapsed now = true) :
      OwnStep settings now sink pipeline
        { pipeline with debouncer := pipeline.debouncer.disarm, duties := [.convert] }
  | completion {completion : Completion} {rest : List Completion}
      (caughtUp : pipeline.IsCaughtUp)
      (queued : pipeline.completions = completion :: rest) :
      OwnStep settings now sink pipeline (pipeline.taking completion rest)
  | waits {effect : Effect} {rest : List Duty}
      (head : pipeline.duties = .emit effect :: rest)
      (refused : (sink.emit .pipeline effect).1 = .waits) :
      OwnStep settings now sink pipeline pipeline
  | tells {effect : Effect} {rest : List Duty}
      (head : pipeline.duties = .emit effect :: rest)
      (delivered : (sink.emit .pipeline effect).1 ≠ .waits) :
      OwnStep settings now sink pipeline { pipeline with duties := rest }
  | performs {duty : Duty} {rest : List Duty}
      (head : pipeline.duties = duty :: rest)
      (silent : ∀ effect, duty ≠ .emit effect) :
      OwnStep settings now sink pipeline
        (({ pipeline with duties := rest } : Pipeline).perform settings now duty)

/-- What a free pipeline takes is a step of its own. -/
theorem ownStep_of_takeNext {settings : PipelineSettings} {now : Instant} {sink : Sink TaskName}
    {pipeline next : Pipeline}
    (free : pipeline.duties = [])
    (took : pipeline.takeNext now sink.shutdown = some next) :
    OwnStep settings now sink pipeline next := by
  simp only [takeNext] at took
  split at took
  · next down =>
      cases took
      exact .stops free (.inl down)
  · split at took
    · next input rest waiting =>
        cases took
        exact .input free waiting
    · next noInput =>
        split at took
        · next closed =>
            cases took
            exact .stops free (.inr (by simpa using closed))
        · split at took
          · next elapsed =>
              cases took
              exact .deadline ⟨free, noInput⟩ elapsed
          · split at took
            · cases took
            · next completion rest queued =>
                cases took
                exact .completion ⟨free, noInput⟩ queued

/-- A step of the pipeline is one of the steps of its own task, and only a pipeline that runs takes
one. -/
theorem ownStep_of_step {settings : PipelineSettings} {now : Instant} {sink later : Sink TaskName}
    {pipeline next : Pipeline} (stepped : pipeline.step settings now sink = some (next, later)) :
    pipeline.running = true ∧ OwnStep settings now sink pipeline next := by
  simp only [step] at stepped
  split at stepped
  · cases stepped
  · next running =>
      refine ⟨by simpa using running, ?_⟩
      split at stepped
      · next free =>
          obtain ⟨taken, took, same⟩ := Option.map_eq_some_iff.mp stepped
          cases same
          exact ownStep_of_takeNext free took
      · next effect rest head =>
          split at stepped
          · next _ delivery =>
              split at stepped
              · cases stepped
              · cases stepped
                exact .waits head (congrArg Prod.fst delivery)
          · next _ unlike delivery =>
              cases stepped
              refine .tells head fun refused => unlike ?_
              exact (congrArg Prod.fst delivery).symm.trans refused
      · next duty rest loud head =>
          cases stepped
          exact .performs head loud

/-- A turn of the pipeline's own task is one of its steps. -/
theorem ownStep_of_turn {settings : PipelineSettings} {now : Instant} {sink : Sink TaskName}
    {pipeline next : Pipeline} (moved : pipeline.turn settings (.own now sink) = some next) :
    pipeline.running = true ∧ OwnStep settings now sink pipeline next := by
  obtain ⟨⟨stepped, later⟩, step, rfl⟩ := Option.map_eq_some_iff.mp moved
  exact ownStep_of_step step

/-! ## Turns of everything else -/

/-- Everything that a turn does that is no step of the pipeline's own task. -/
inductive BackgroundStep (pipeline : Pipeline) : Turn → Pipeline → Prop where
  | askConversion {work : Ticketed ConversionResult} {request : Request}
      {resume : CallId → Exchange ConversionResult} {call : CallId}
      (current : pipeline.conversions.current = some work)
      (asks : work.exchange.ask? = some (request, resume)) :
      BackgroundStep pipeline (.ask .conversion call)
        { pipeline with
          conversions := pipeline.conversions.attach { work with exchange := resume call } }
  | askBonus {work : Ticketed (Option BonusForecast)} {request : Request}
      {resume : CallId → Exchange (Option BonusForecast)} {call : CallId}
      (current : pipeline.bonuses.current = some work)
      (asks : work.exchange.ask? = some (request, resume)) :
      BackgroundStep pipeline (.ask .bonus call)
        { pipeline with
          bonuses := pipeline.bonuses.attach { work with exchange := resume call } }
  | askLimits {exchange : Exchange (Option TopUpLimits)} {request : Request}
      {resume : CallId → Exchange (Option TopUpLimits)} {call : CallId}
      (current : pipeline.limits = .loading exchange)
      (asks : exchange.ask? = some (request, resume)) :
      BackgroundStep pipeline (.ask .limits call)
        { pipeline with limits := .loading (resume call) }
  | endConversion {work : Ticketed ConversionResult} {result : ConversionResult}
      (current : pipeline.conversions.current = some work)
      (ended : work.exchange.result? = some result) :
      BackgroundStep pipeline (.finish .conversion)
        { pipeline with
          conversions := pipeline.conversions.finish
          completions := pipeline.completions ++ convertedReport work.ticket result }
  | endBonus {work : Ticketed (Option BonusForecast)} {bonus : Option BonusForecast}
      (current : pipeline.bonuses.current = some work)
      (ended : work.exchange.result? = some bonus) :
      BackgroundStep pipeline (.finish .bonus)
        { pipeline with
          bonuses := pipeline.bonuses.finish
          completions := pipeline.completions ++ [.bonusLoaded work.ticket bonus] }
  | endLimits {exchange : Exchange (Option TopUpLimits)} {limits : Option TopUpLimits}
      (current : pipeline.limits = .loading exchange)
      (ended : exchange.result? = some limits) :
      BackgroundStep pipeline (.finish .limits)
        { pipeline with
          limits := .reported
          completions := pipeline.completions ++ [.limitsLoaded limits] }
  | hear {call : CallId} {server : Server} :
      BackgroundStep pipeline (.hear call server) (pipeline.hear call server)
  | send {input : AmountInput} : BackgroundStep pipeline (.send input) (pipeline.send input)
  | close : BackgroundStep pipeline .close { pipeline with inputsOpen := false }

/-- A task that wants to ask something does so in a turn. -/
theorem turn_ask {settings : PipelineSettings} {pipeline : Pipeline} {task : TaskName}
    {request : Request} {resume : CallId → Pipeline}
    (asks : pipeline.ask? task = some (request, resume)) (call : CallId) :
    pipeline.turn settings (.ask task call) = some (resume call) := by
  simp only [turn, asks, Option.map_some]

/-- A call is made by a background task. -/
theorem backgroundStep_of_ask {settings : PipelineSettings} {pipeline next : Pipeline}
    {task : TaskName} {call : CallId}
    (moved : pipeline.turn settings (.ask task call) = some next) :
    BackgroundStep pipeline (.ask task call) next := by
  obtain ⟨⟨request, resume⟩, asks, rfl⟩ := Option.map_eq_some_iff.mp moved
  cases task with
  | conversion =>
      simp only [ask?] at asks
      split at asks
      · cases asks
      · next work current =>
          obtain ⟨⟨request, next⟩, puts, same⟩ := Option.map_eq_some_iff.mp asks
          cases same
          exact .askConversion current puts
  | bonus =>
      simp only [ask?] at asks
      split at asks
      · cases asks
      · next work current =>
          obtain ⟨⟨request, next⟩, puts, same⟩ := Option.map_eq_some_iff.mp asks
          cases same
          exact .askBonus current puts
  | limits =>
      simp only [ask?] at asks
      split at asks
      · next exchange current =>
          obtain ⟨⟨request, next⟩, puts, same⟩ := Option.map_eq_some_iff.mp asks
          cases same
          exact .askLimits current puts
      · cases asks
  | session | pipeline | setup | payment => cases asks

/-- It is a background task that ends. -/
theorem backgroundStep_of_finish {settings : PipelineSettings} {pipeline next : Pipeline}
    {task : TaskName} (moved : pipeline.turn settings (.finish task) = some next) :
    BackgroundStep pipeline (.finish task) next := by
  cases task with
  | conversion =>
      simp only [turn, finish, finishConversion] at moved
      split at moved
      · cases moved
      · next work current =>
          obtain ⟨result, ended, rfl⟩ := Option.map_eq_some_iff.mp moved
          exact .endConversion current ended
  | bonus =>
      simp only [turn, finish, finishBonus] at moved
      split at moved
      · cases moved
      · next work current =>
          obtain ⟨result, ended, rfl⟩ := Option.map_eq_some_iff.mp moved
          exact .endBonus current ended
  | limits =>
      simp only [turn, finish, finishLimits] at moved
      split at moved
      · next exchange current =>
          obtain ⟨result, ended, rfl⟩ := Option.map_eq_some_iff.mp moved
          exact .endLimits current ended
      · cases moved
  | session | pipeline | setup | payment => cases moved

/-- A turn is a step of the pipeline's own task or a step in the background. -/
theorem step_of_turn {settings : PipelineSettings} {pipeline next : Pipeline} {turn : Turn}
    (moved : pipeline.turn settings turn = some next) :
    (∃ now sink, turn = .own now sink ∧ pipeline.running = true
        ∧ OwnStep settings now sink pipeline next)
      ∨ BackgroundStep pipeline turn next := by
  cases turn with
  | own now sink =>
      obtain ⟨running, step⟩ := ownStep_of_turn moved
      exact .inl ⟨now, sink, rfl, running, step⟩
  | ask task call => exact .inr (backgroundStep_of_ask moved)
  | finish task => exact .inr (backgroundStep_of_finish moved)
  | hear call server =>
      obtain rfl := Option.some.inj moved
      exact .inr .hear
  | send input =>
      obtain rfl := Option.some.inj moved
      exact .inr .send
  | close =>
      obtain rfl := Option.some.inj moved
      exact .inr .close

/-! ## What the presentation layer is told -/

/-- The effect that a moment's step hands to the presentation layer, if it hands one over. -/
def told? (moment : Moment Pipeline Turn) : Option Effect :=
  match moment.event, moment.before.duties with
  | .own _ sink, .emit effect :: _ =>
    if (sink.emit .pipeline effect).1 = .waits then none else some effect
  | _, _ => none

/-- The effects that a pipeline has handed to the presentation layer, the latest first. -/
def told (past : History) : List Effect := past.filterMap told?

/-- A silent moment leaves what has been told. -/
theorem told_cons_none {moment : Moment Pipeline Turn} (silent : told? moment = none)
    (past : History) : told (moment :: past) = told past :=
  List.filterMap_cons_none silent

/-- A pipeline with nothing left to do tells nobody anything. -/
theorem told?_of_free {pipeline : Pipeline} {turn : Turn} (free : pipeline.duties = []) :
    told? ⟨pipeline, turn⟩ = none := by
  cases turn <;> simp only [told?, free]

/-- Nor does a duty that does not emit. -/
theorem told?_of_silent {pipeline : Pipeline} {turn : Turn} {duty : Duty} {rest : List Duty}
    (head : pipeline.duties = duty :: rest)
    (silent : ∀ effect, duty ≠ .emit effect) : told? ⟨pipeline, turn⟩ = none := by
  simp only [told?, head]
  split
  · next same =>
      cases same
      exact (silent _ rfl).elim
  · rfl

/-- Whether the presentation layer was last told that the amount may be submitted.  At first it has
been told nothing, and the amount may not be submitted. -/
def shown : List Effect → Bool
  | [] => false
  | .setSubmitEnabled enabled :: _ => enabled
  | _ :: earlier => shown earlier

/-! ## Inputs -/

/-- The input that a moment hands to the pipeline. -/
def sent? (moment : Moment Pipeline Turn) : Option AmountInput :=
  match moment.event with
  | .send input => some input
  | _ => none

/-- The inputs that a pipeline has been handed, in the order in which they came. -/
def sent (past : History) : List AmountInput := (past.filterMap sent?).reverse

/-- A moment without an input leaves what has been sent. -/
theorem sent_cons_none {moment : Moment Pipeline Turn} (silent : sent? moment = none)
    (past : History) : sent (moment :: past) = sent past := by
  rw [sent, List.filterMap_cons_none silent, sent]

end Pipeline

/-! ## The turns of a run -/

namespace PipelineRun

/-- The turn of the pipeline that a move makes, if it makes one. -/
def turn? (run : PipelineRun) : Move → Option Pipeline.Turn
  | .step task =>
    match run.pipeline.ask? task, task with
    | some _, task => some (.ask task run.calls.length)
    | none, .pipeline => some (.own run.now run.sink)
    | none, task => some (.finish task)
  | .answer call server => some (.hear call server)
  | .send input => some (.send input)
  | .close => some .close
  | _ => none

/-- The turns that a pipeline has made in the history of its run. -/
def turns (past : List (Moment PipelineRun Move)) : Pipeline.History :=
  past.filterMap fun moment =>
    (moment.before.turn? moment.event).map (Moment.mk moment.before.pipeline)

/-- A series of moves is made one after another. -/
theorem moves_eq_foldlM (settings : PipelineSettings) (run : PipelineRun) (list : List Move) :
    run.moves settings list = list.foldlM (PipelineRun.move settings) run := by
  induction list generalizing run with
  | nil => rfl
  | cons move rest ih =>
      simp only [moves, List.foldlM_cons]
      exact Option.bind_congr fun next _ => ih next

/-- A series of moves is a history. -/
theorem reaches_of_moves {settings : PipelineSettings} {start run : PipelineRun}
    {list : List Move} (ran : start.moves settings list = some run) :
    ∃ past, Reaches (PipelineRun.move settings) start past run
      ∧ past.map Moment.event = list.reverse :=
  Reaches.of_foldlM (moves_eq_foldlM settings start list ▸ ran)

/-- A step in which the pipeline makes a turn changes it by that turn. -/
theorem turn_of_step {settings : PipelineSettings} {run result : PipelineRun} {task : TaskName}
    {action : Pipeline.Turn}
    (stepped : run.step settings task = some result)
    (labelled : run.turn? (.step task) = some action) :
    run.pipeline.turn settings action = some result.pipeline := by
  simp only [step] at stepped
  simp only [turn?] at labelled
  cases asks : run.pipeline.ask? task with
  | some pair =>
      simp only [asks, Option.some.injEq] at stepped labelled
      subst stepped labelled
      simp only [Pipeline.turn, asks, Option.map_some]
  | none =>
      simp only [asks] at stepped labelled
      cases task with
      | pipeline =>
          obtain rfl := Option.some.inj labelled
          obtain ⟨pair, moved, rfl⟩ := Option.map_eq_some_iff.mp stepped
          simp only [Pipeline.turn, moved, Option.map_some]
      | session | setup | conversion | bonus | limits | payment =>
          obtain rfl := Option.some.inj labelled
          obtain ⟨ended, moved, rfl⟩ := Option.map_eq_some_iff.mp stepped
          exact moved

/-- A move in which the pipeline makes a turn changes it by that turn. -/
theorem turn_of_move {settings : PipelineSettings} {run result : PipelineRun} {event : Move}
    {action : Pipeline.Turn}
    (moved : run.move settings event = some result)
    (labelled : run.turn? event = some action) :
    run.pipeline.turn settings action = some result.pipeline := by
  cases event with
  | step task => exact turn_of_step moved labelled
  | answer call server | close =>
      obtain rfl := Option.some.inj labelled
      obtain rfl := Option.some.inj moved
      rfl
  | send input =>
      obtain rfl := Option.some.inj labelled
      simp only [move] at moved
      split at moved
      · cases moved
        rfl
      · cases moved
  | advance _ | take | signal _ | dropSignal | stopListening => cases labelled

/-- A move in which the pipeline makes no turn leaves it as it is. -/
theorem pipeline_of_move {settings : PipelineSettings} {run result : PipelineRun} {event : Move}
    (moved : run.move settings event = some result)
    (unlabelled : run.turn? event = none) :
    result.pipeline = run.pipeline := by
  cases event with
  | step task =>
      simp only [turn?] at unlabelled
      split at unlabelled <;> cases unlabelled
  | answer _ _ | send _ | close => cases unlabelled
  | advance _ | signal _ | dropSignal | stopListening =>
      obtain rfl := Option.some.inj moved
      rfl
  | take =>
      obtain ⟨pair, _, rfl⟩ := Option.map_eq_some_iff.mp moved
      rfl

/-- The pipeline of a run has come to where it is by its turns. -/
theorem reaches_turns {settings : PipelineSettings} {start run : PipelineRun}
    {past : List (Moment PipelineRun Move)}
    (reached : Reaches (PipelineRun.move settings) start past run) :
    Reaches (Pipeline.turn settings) start.pipeline (turns past) run.pipeline :=
  reached.project PipelineRun.pipeline turn?
    (fun _ _ _ _ moved labelled => turn_of_move moved labelled)
    (fun _ _ _ moved unlabelled => pipeline_of_move moved unlabelled)

end PipelineRun

end WalletTopUp
