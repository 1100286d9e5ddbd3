import WalletTopUp.Proofs.Pipeline.QuietPeriod

/-!
# Debounced conversions

A conversion is asked for when the end of a quiet period has been noticed and the amount on the
selected side is positive (`PipelineRun.owed_iff`).  Inputs that follow each other faster than
the quiet period lasts, a burst, lead to at most one conversion, that of the last of them
(`PipelineRun.phase_of_burst`).
-/

namespace WalletTopUp

namespace PipelineRun

variable {settings : PipelineSettings} {run next : PipelineRun} {event : Move}
  {past : List (Moment PipelineRun Move)}

/-! ## Which conversions are asked for -/

/-- A conversion that is asked for: when, and of the amount on the selected side of which entry. -/
structure Requested where
  time : Instant
  entry : AmountEntry
  amount : Decimal

/-- The conversion that an entry asks for: that of the amount on its selected side, if it is
positive. -/
def requestAt? (time : Instant) (entry : AmountEntry) : Option Requested :=
  entry.source.positive?.map fun amount => ⟨time, entry, amount⟩

/-- The conversion that a moment's step asks for, if it asks for one. -/
def requested? (moment : Moment PipelineRun Move) : Option Requested :=
  match moment.event, moment.before.pipeline.duties with
  | .step .pipeline, .convert :: _ =>
    requestAt? moment.before.now moment.before.pipeline.state.entry
  | _, _ => none

/-- The conversions that have been asked for, the latest first. -/
def requested (past : List (Moment PipelineRun Move)) : List Requested :=
  past.filterMap requested?

/-- A quiet period has ended and been noticed, and the entry asked for this conversion then. -/
def Owed (window : Nat) (past : List (Moment PipelineRun Move)) (request : Requested) : Prop :=
  ∃ notice earlier, notice :: earlier <:+ past ∧ FallsDue window notice earlier
    ∧ requestAt? notice.before.now notice.before.pipeline.state.entry = some request

/-- A moment adds the conversion that is requested then, if there is one. -/
theorem requested_cons (moment : Moment PipelineRun Move) (past : List (Moment PipelineRun Move)) :
    requested (moment :: past) = (requested? moment).toList ++ requested past := by
  rw [requested, requested, List.filterMap_cons]
  cases requested? moment <;> rfl

/-- A request is owed if it falls due at this moment or was owed before. -/
theorem owed_cons {window : Nat} {moment : Moment PipelineRun Move} {request : Requested} :
    Owed window (moment :: past) request ↔
      (FallsDue window moment past
          ∧ requestAt? moment.before.now moment.before.pipeline.state.entry = some request)
        ∨ Owed window past request := by
  constructor
  · rintro ⟨notice, earlier, suffix, due, asks⟩
    rcases List.suffix_cons_iff.mp suffix with same | before
    · obtain ⟨rfl, rfl⟩ := List.cons.inj same
      exact .inl ⟨due, asks⟩
    · exact .inr ⟨notice, earlier, before, due, asks⟩
  · rintro (⟨due, asks⟩ | ⟨notice, earlier, before, due, asks⟩)
    · exact ⟨moment, past, List.suffix_refl _, due, asks⟩
    · exact ⟨notice, earlier, before.trans (List.suffix_cons _ _), due, asks⟩

/-- Nothing is requested as long as no conversion is due. -/
theorem requested?_of_not_mem (undone : .convert ∉ run.pipeline.duties) :
    requested? ⟨run, event⟩ = none := by
  unfold requested?
  split
  · next _ _ head => exact (undone (head ▸ List.mem_cons_self)).elim
  · rfl

/-- Nothing is requested by anybody but the pipeline's own task. -/
theorem requested?_of_event (other : event ≠ .step .pipeline) :
    requested? ⟨run, event⟩ = none := by
  unfold requested?
  split
  · next own _ => exact (other own).elim
  · rfl

/-- A pipeline that looks at the deadline has no conversion left to do. -/
theorem Looks.undone (looks : Looks ⟨run, event⟩) : .convert ∉ run.pipeline.duties := by
  have free : run.pipeline.duties = [] := looks.free
  rw [free]
  exact List.not_mem_nil

/-- A moment that restarts the quiet period does not notice its end. -/
theorem not_notices_of_restarts {input : AmountInput} (restarts : Restarts input ⟨run, event⟩) :
    ¬ Notices ⟨run, event⟩ := fun notices => by
  obtain ⟨_, waiting⟩ := restarts.waiting
  cases notices.noInput.symm.trans waiting

/-- **A conversion is asked for exactly when a quiet period has ended and been noticed.**  In
between it is what the pipeline's own task is about to do. -/
theorem owed_iff
    (reached : Reaches (PipelineRun.move settings) (PipelineRun.start settings) past run)
    (punctual : IsPunctual settings past) (request : Requested) :
    Owed settings.window past request ↔
      request ∈ requested past
        ∨ (.convert ∈ run.pipeline.duties
          ∧ requestAt? run.now run.pipeline.state.entry = some request) := by
  induction reached with
  | start =>
      refine iff_of_false ?_ ?_
      · rintro ⟨_, _, suffix, _⟩
        cases List.eq_nil_of_suffix_nil suffix
      · rintro (member | ⟨member, _⟩) <;> cases member
  | @step past run next event earlier moved ih =>
      obtain ⟨⟨_, reads⟩, before⟩ := List.forall_mem_cons.mp punctual
      have steady := steady_of_reaches earlier before
      have due : FallsDue settings.window ⟨run, event⟩ past
          ↔ Notices ⟨run, event⟩ ∧ run.due? = some run.now := fallsDue_iff earlier before
      rw [owed_cons, due, ih before, requested_cons]
      cases timed_of_move steady moved reads with
      | restarts restarts duties _ _ _ =>
          have undone := restarts.looks.undone
          have after : .convert ∉ next.pipeline.duties := duties ▸ not_convert_mem_inputDuties _
          simp [not_notices_of_restarts restarts, undone, after, requested?_of_not_mem undone]
      | notices notices elapsed duties state now _ =>
          have undone := notices.looks.undone
          simp [notices, elapsed, undone, duties, state, now, requested?_of_not_mem undone, or_comm]
      | converts own duties done _ undue _ =>
          subst own
          have asks : requested? ⟨run, .step .pipeline⟩
              = requestAt? run.now run.pipeline.state.entry := by
            simp only [requested?, duties]
          simp [undue, duties, done, asks, or_comm]
      | passes calm early _ converts waits _ =>
          have notNow : ¬ (Notices ⟨run, event⟩ ∧ run.due? = some run.now) := fun both =>
            Nat.lt_irrefl _ (early both.1 _ both.2)
          by_cases member : .convert ∈ run.pipeline.duties
          · obtain ⟨other, state, now⟩ := waits member
            simp [notNow, converts, member, state, now, requested?_of_event other]
          · simp [notNow, converts, member, requested?_of_not_mem member]

/-! ## Bursts -/

/-- Inputs that begin the quiet period, each before the one that the previous input began was over.
The burst is at its `last` input, and more may have happened since. -/
inductive Burst (window : Nat) :
    Instant → AmountInput → List (Moment PipelineRun Move) → Prop where
  | opens {input : AmountInput} {moment : Moment PipelineRun Move}
      (restarts : Restarts input moment) :
      Burst window moment.before.now input [moment]
  | goesOn {time : Instant} {last input : AmountInput} {moment : Moment PipelineRun Move}
      {burst : List (Moment PipelineRun Move)}
      (earlier : Burst window time last burst)
      (restarts : Restarts input moment)
      (soon : moment.before.now < time + window) :
      Burst window moment.before.now input (moment :: burst)
  | waits {time : Instant} {last : AmountInput} {moment : Moment PipelineRun Move}
      {burst : List (Moment PipelineRun Move)}
      (earlier : Burst window time last burst)
      (calm : ∀ input, ¬ Restarts input moment) :
      Burst window time last (moment :: burst)

/-- Whether an action changes the amount on the selected side. -/
def changesSource : ScreenAction → Bool
  | .amountEdited _ | .currencySwitched => true
  | _ => false

/-- Most actions leave the amount on the selected side. -/
theorem source_next {state : ScreenState} {action : ScreenAction}
    (keeps : changesSource action = false) :
    (state.next action).entry.source = state.entry.source := by
  cases action with
  | amountEdited _ | currencySwitched => cases keeps
  | conversionSettled derived =>
      cases side : state.entry.selected <;>
        simp only [ScreenState.next, AmountEntry.source, AmountEntry.withSide, AmountEntry.side,
          Side.other, side]
  | _ => rfl

/-- An edit that is taken over puts its amount on the selected side. -/
theorem source_edited {state : ScreenState} {text : String} {value : AmountValue}
    (typed : AmountValue.ofText? text = some value) :
    (state.next (.amountEdited text)).entry.source = value := by
  cases side : state.entry.selected <;>
    simp only [ScreenState.next, typed, AmountEntry.source, AmountEntry.withSide, AmountEntry.side,
      Side.other, side]

/-- The source of the entry is the typed value, or is going to be once the duties are done. -/
inductive Typed (text : String) (value : AmountValue) (pipeline : Pipeline) : Prop where
  | pending (left : pipeline.duties ∈ [Pipeline.inputDuties (.edit text),
        (Pipeline.inputDuties (.edit text)).tail, (Pipeline.inputDuties (.edit text)).tail.tail]) :
      Typed text value pipeline
  | taken (source : pipeline.state.entry.source = value)
      (keeps : ∀ action, .publish action ∈ pipeline.duties → changesSource action = false) :
      Typed text value pipeline

/-- How far the burst has got that ended with an input at a time. -/
inductive Phase (settings : PipelineSettings) (time : Instant) (last : AmountInput)
    (run : PipelineRun) (burst : List (Moment PipelineRun Move)) : Prop where
  | awaits
      (due : run.due? = some (time + settings.window))
      (undone : .convert ∉ run.pipeline.duties)
      (nothing : requested burst = [])
      (typed : ∀ text value, last = .edit text → AmountValue.ofText? text = some value →
        Typed text value run.pipeline)
  | fires
      (undue : run.due? = none)
      (member : .convert ∈ run.pipeline.duties)
      (now : run.now = time + settings.window)
      (nothing : requested burst = [])
      (source : ∀ text value, last = .edit text → AmountValue.ofText? text = some value →
        run.pipeline.state.entry.source = value)
  | ended {entry : AmountEntry}
      (undue : run.due? = none)
      (undone : .convert ∉ run.pipeline.duties)
      (late : time + settings.window ≤ run.now)
      (asked : requested burst = (requestAt? (time + settings.window) entry).toList)
      (source : ∀ text value, last = .edit text → AmountValue.ofText? text = some value →
        entry.source = value)

/-- What an accepted edit asks for: nothing stays under way, and the quiet period begins. -/
theorem inputDuties_edit {text : String} {value : AmountValue}
    (typed : AmountValue.ofText? text = some value) :
    Pipeline.inputDuties (.edit text) = [.cancelConversion, .cancelBonus,
      .publish (.amountEdited text), .emit (.setSubmitEnabled false), .arm] := by
  simp only [Pipeline.inputDuties, typed]

/-- An armed pipeline that is free to take something has not settled its amount. -/
theorem unsettled_of_due
    (reached : Reaches (PipelineRun.move settings) (PipelineRun.start settings) past run)
    (running : run.pipeline.running = true)
    (free : run.pipeline.duties = [])
    (due : run.due? ≠ none) : run.pipeline.state.settled = false := by
  have ready := Pipeline.ready_of_anyOrder (reaches_turns reached) running
  rw [due?_of_free free] at due
  exact ((ready.atRest free).armed due).1

/-- What is taken while the quiet period lasts does not change the source, unless it begins the
period anew. -/
theorem keeps_of_input {input : AmountInput} {rest : List AmountInput} {action : ScreenAction}
    (looks : Looks ⟨run, event⟩)
    (waiting : run.pipeline.inputs = input :: rest)
    (unsettled : run.pipeline.state.settled = false)
    (calm : ∀ input, ¬ Restarts input ⟨run, event⟩)
    (member : .publish action ∈ Pipeline.inputDuties input) : changesSource action = false := by
  have quiet : Pipeline.beginsQuietWith run.pipeline.state.settled input = false :=
    Bool.eq_false_iff.mpr fun begins => calm input ⟨looks, ⟨rest, waiting⟩, begins⟩
  rw [unsettled] at quiet
  rcases Pipeline.input_of_publish member with
    ⟨_, _, rfl, rfl⟩ | ⟨text, rfl, rfl⟩ | ⟨rfl, rfl⟩ | ⟨_, rfl, rfl⟩
  · rfl
  · obtain ⟨value, value?, _⟩ :=
      Option.map_eq_some_iff.mp (Pipeline.publish_mem_inputDuties.mp member)
    rw [Pipeline.beginsQuietWith, value?] at quiet
    cases quiet
  · cases quiet
  · rfl

/-- What a finished request publishes leaves the amount on the selected side. -/
theorem keeps_of_completion {pipeline : Pipeline} {completion : Completion} {action : ScreenAction}
    (member : .publish action ∈ pipeline.completionDuties completion) :
    changesSource action = false := by
  rcases Pipeline.publish_mem_completionDuties member with ⟨_, _, rfl⟩ | ⟨_, _, _, _, rfl⟩ <;> rfl

/-- What a duty adds publishes nothing that changes the amount on the selected side. -/
theorem keeps_of_added {state : ScreenState} {duty : Duty} {action : ScreenAction}
    (member : .publish action ∈ Pipeline.added state duty) : changesSource action = false := by
  rcases Pipeline.publish_mem_added member with ⟨_, _, rfl⟩ | ⟨_, rfl⟩ | rfl <;> rfl

/-- A typed amount that is going to be taken over, or has been, is so after any duty. -/
theorem Typed.perform {text : String} {value : AmountValue} {duty : Duty} {rest : List Duty}
    {pipeline : Pipeline} {now : Instant}
    (value? : AmountValue.ofText? text = some value)
    (typed : Typed text value pipeline)
    (head : pipeline.duties = duty :: rest) :
    Typed text value
      (({ pipeline with duties := rest } : Pipeline).perform settings now duty) := by
  have effect := Pipeline.performed settings now pipeline duty rest
  cases typed with
  | pending left =>
      simp only [inputDuties_edit value?, List.tail_cons, List.mem_cons, List.not_mem_nil,
        or_false, head] at left
      rcases left with same | same | same
      · obtain ⟨rfl, rfl⟩ := List.cons.inj same
        refine .pending ?_
        rw [effect.duties, inputDuties_edit value?]
        exact List.mem_cons_of_mem _ List.mem_cons_self
      · obtain ⟨rfl, rfl⟩ := List.cons.inj same
        refine .pending ?_
        rw [effect.duties, inputDuties_edit value?]
        exact List.mem_cons_of_mem _ (List.mem_cons_of_mem _ List.mem_cons_self)
      · obtain ⟨rfl, rfl⟩ := List.cons.inj same
        refine .taken (source_edited value?) fun action member => ?_
        rw [effect.duties] at member
        simp [Pipeline.added] at member
  | taken source keeps =>
      refine .taken ?_ fun action member => ?_
      · rw [effect.state]
        cases duty with
        | publish action =>
            exact (source_next (keeps action (head ▸ List.mem_cons_self))).trans source
        | _ => exact source
      · rw [effect.duties] at member
        rcases List.mem_append.mp member with new | left
        · exact keeps_of_added new
        · exact keeps action (head ▸ List.mem_cons_of_mem _ left)

/-- The typed value stays the source as long as its quiet period lasts. -/
theorem Typed.move {text : String} {value : AmountValue}
    (reached : Reaches (PipelineRun.move settings) (PipelineRun.start settings) past run)
    (value? : AmountValue.ofText? text = some value)
    (typed : Typed text value run.pipeline)
    (moved : run.move settings event = some next)
    (due : run.due? ≠ none)
    (calm : ∀ input, ¬ Restarts input ⟨run, event⟩) : Typed text value next.pipeline := by
  by_cases own : event = .step .pipeline
  · subst own
    by_cases free : run.pipeline.duties = []
    · have took := took_of_move moved free
      have unsettled := unsettled_of_due reached (running_of_move moved) free due
      cases typed with
      | pending left =>
          simp [inputDuties_edit value?, free] at left
      | taken source keeps =>
          generalize next.pipeline = taken at took
          cases took with
          | stops _ => exact .taken source keeps
          | input up waiting =>
              exact .taken source fun action member =>
                keeps_of_input ⟨rfl, free, up⟩ waiting unsettled calm member
          | deadline _ _ _ _ => exact .taken source fun action member => by simp at member
          | completion _ _ => exact .taken source fun action member => keeps_of_completion member
    · have worked := Pipeline.worked_of_ownStep free (ownStep_of_move moved).1
      generalize next.pipeline = done at worked
      cases worked with
      | waits _ => exact typed
      | tells head =>
          cases typed with
          | pending left => simp [inputDuties_edit value?, head] at left
          | taken source keeps =>
              exact .taken source fun action member =>
                keeps action (head ▸ List.mem_cons_of_mem _ member)
      | performs head _ => exact typed.perform value? head
  · obtain ⟨state, _, duties, _⟩ := untouched_of_move moved own
    cases typed with
    | pending left => exact .pending (duties ▸ left)
    | taken source keeps =>
        exact .taken (state ▸ source) fun action member => keeps action (duties ▸ member)

/-- An input that begins the quiet period begins the wait for its end. -/
theorem Timed.of_restarts {input : AmountInput} (timed : Timed run event next)
    (restarts : Restarts input ⟨run, event⟩) :
    next.pipeline.duties = Pipeline.inputDuties input
      ∧ next.due? = some (run.now + run.pipeline.debouncer.window) := by
  cases timed with
  | restarts restarts' duties _ _ due =>
      obtain ⟨_, waiting⟩ := restarts.waiting
      obtain ⟨_, waiting'⟩ := restarts'.waiting
      obtain ⟨rfl, _⟩ := List.cons.inj (waiting.symm.trans waiting')
      exact ⟨duties, due⟩
  | notices notices _ _ _ _ _ => exact (not_notices_of_restarts restarts notices).elim
  | converts _ duties _ _ _ _ =>
      exact (not_looks_of_busy (by simp [duties]) restarts.looks).elim
  | passes calm _ _ _ _ _ => exact (calm input restarts).elim

/-- A burst begins with an input that restarts the quiet period. -/
theorem Phase.of_restarts {input : AmountInput} {burst : List (Moment PipelineRun Move)}
    (steady : Steady settings run)
    (timed : Timed run event next)
    (restarts : Restarts input ⟨run, event⟩)
    (nothing : requested burst = []) :
    Phase settings run.now input next (⟨run, event⟩ :: burst) := by
  obtain ⟨duties, due⟩ := timed.of_restarts restarts
  refine .awaits (steady.window ▸ due) (duties ▸ not_convert_mem_inputDuties input) ?_ ?_
  · rw [requested_cons, requested?_of_not_mem restarts.looks.undone, nothing]
    rfl
  · rintro text value rfl _
    exact .pending (duties ▸ List.mem_cons_self)

/-- What follows the last input of a burst, until the quiet period is begun anew. -/
theorem Phase.move {time : Instant} {last : AmountInput} {burst : List (Moment PipelineRun Move)}
    (reached : Reaches (PipelineRun.move settings) (PipelineRun.start settings) past run)
    (phase : Phase settings time last run burst)
    (moved : run.move settings event = some next)
    (timed : Timed run event next)
    (calm : ∀ input, ¬ Restarts input ⟨run, event⟩) :
    Phase settings time last next (⟨run, event⟩ :: burst) := by
  cases phase with
  | awaits due undone nothing typed =>
      have asked : requested (⟨run, event⟩ :: burst) = [] := by
        rw [requested_cons, requested?_of_not_mem undone, nothing]
        rfl
      have armed : run.due? ≠ none := by simp [due]
      have typedNext (text : String) (value : AmountValue) (same : last = .edit text)
          (value? : AmountValue.ofText? text = some value) : Typed text value next.pipeline :=
        (typed text value same value?).move reached value? moved armed calm
      cases timed with
      | restarts restarts _ _ _ _ => exact (calm _ restarts).elim
      | notices _ elapsed duties _ now dueNext =>
          have ended : time + settings.window = run.now := Option.some.inj (due.symm.trans elapsed)
          refine .fires dueNext (by simp [duties]) (now.trans ended.symm) asked ?_
          intro text value same value?
          cases typedNext text value same value? with
          | pending left => simp [inputDuties_edit value?, duties] at left
          | taken source _ => exact source
      | converts _ duties _ _ _ _ => exact (undone (by simp [duties])).elim
      | passes _ _ _ converts _ dueNext =>
          exact .awaits (dueNext.trans due) (mt converts.mp undone) asked typedNext
  | fires undue member now nothing source =>
      cases timed with
      | restarts restarts _ _ _ _ => exact (calm _ restarts).elim
      | notices _ elapsed _ _ _ _ => cases undue.symm.trans elapsed
      | converts own duties done nowNext _ dueNext =>
          have asks : requested? ⟨run, event⟩
              = requestAt? (time + settings.window) run.pipeline.state.entry := by
            simp only [requested?, own, duties, now]
          refine .ended dueNext done (nowNext.trans now).ge ?_ source
          rw [requested_cons, asks, nothing, List.append_nil]
      | passes _ _ _ converts waits dueNext =>
          obtain ⟨other, state, nowNext⟩ := waits member
          refine .fires (dueNext.trans undue) (converts.mpr member) (nowNext.trans now) ?_ ?_
          · rw [requested_cons, requested?_of_event other, nothing]
            rfl
          · rw [state]
            exact source
  | ended undue undone late asked source =>
      -- Nothing is due any more, and only an input that is not calm makes something due again.
      have same : requested (⟨run, event⟩ :: burst) = requested burst := by
        rw [requested_cons, requested?_of_not_mem undone]
        rfl
      cases timed with
      | restarts restarts _ _ _ _ => exact (calm _ restarts).elim
      | notices _ elapsed _ _ _ _ => cases undue.symm.trans elapsed
      | converts _ duties _ _ _ _ => exact (undone (by simp [duties])).elim
      | passes _ _ now converts _ dueNext =>
          exact .ended (dueNext.trans undue) (mt converts.mp undone) (Nat.le_trans late now)
            (same.trans asked) source

/-- **A burst leads to at most one conversion**, that of its last input. -/
theorem phase_of_burst {time : Instant} {last : AmountInput}
    {burst earlier : List (Moment PipelineRun Move)}
    (bursts : Burst settings.window time last burst)
    (reached : Reaches (PipelineRun.move settings) (PipelineRun.start settings)
      (burst ++ earlier) run)
    (punctual : IsPunctual settings (burst ++ earlier)) : Phase settings time last run burst := by
  induction bursts generalizing run with
  | opens restarts =>
      cases reached with
      | step before moved =>
          obtain ⟨⟨_, reads⟩, punctualBefore⟩ := List.forall_mem_cons.mp punctual
          have steady := steady_of_reaches before punctualBefore
          exact .of_restarts steady (timed_of_move steady moved reads) restarts rfl
  | goesOn _ restarts soon ih =>
      cases reached with
      | step before moved =>
          obtain ⟨⟨_, reads⟩, punctualBefore⟩ := List.forall_mem_cons.mp punctual
          have steady := steady_of_reaches before punctualBefore
          refine .of_restarts steady (timed_of_move steady moved reads) restarts ?_
          cases ih before punctualBefore with
          | awaits _ _ nothing _ => exact nothing
          | fires _ _ now _ _ => exact absurd now (Nat.ne_of_lt soon)
          | ended _ _ late _ _ => exact absurd soon (Nat.not_lt.mpr late)
  | waits _ calm ih =>
      cases reached with
      | step before moved =>
          obtain ⟨⟨_, reads⟩, punctualBefore⟩ := List.forall_mem_cons.mp punctual
          have timed := timed_of_move (steady_of_reaches before punctualBefore) moved reads
          exact (ih before punctualBefore).move before moved timed calm

/-- A run that has not been shut down has not missed the end of the quiet period. -/
theorem now_le_due (steady : Steady settings run) (running : run.pipeline.running = true)
    {time : Instant} (due : run.due? = some time) : run.now ≤ time := by
  unfold due? at due
  split at due
  · rw [← Option.some.inj due]
    exact Nat.le_add_right _ _
  · exact steady.ahead running time due

/-- At one time one conversion is requested at most. -/
theorem length_requestAt?_le (time : Instant) (entry : AmountEntry) :
    (requestAt? time entry).toList.length ≤ 1 := by
  cases requestAt? time entry <;> simp

/-- A burst leads to at most one conversion. -/
theorem Phase.length_le {time : Instant} {last : AmountInput}
    {burst : List (Moment PipelineRun Move)}
    (phase : Phase settings time last run burst) : (requested burst).length ≤ 1 := by
  cases phase with
  | awaits _ _ nothing _ => simp [nothing]
  | fires _ _ _ nothing _ => simp [nothing]
  | ended _ _ _ asked _ =>
      rw [asked]
      exact length_requestAt?_le _ _

/-- A burst that ends with a positive amount leads to its conversion. -/
theorem Phase.requested_eq {time : Instant} {text : String} {amount : Decimal}
    {burst : List (Moment PipelineRun Move)}
    (phase : Phase settings time (.edit text) run burst)
    (steady : Steady settings run)
    (running : run.pipeline.running = true)
    (late : time + settings.window < run.now)
    (typed : AmountValue.ofText? text = some (.value amount))
    (positive : amount.isPositive = true) :
    ∃ entry, entry.source = .value amount
      ∧ requested burst = [⟨time + settings.window, entry, amount⟩] := by
  cases phase with
  | awaits due _ _ _ => exact absurd late (Nat.not_lt.mpr (now_le_due steady running due))
  | fires _ _ now _ _ => exact absurd late (Nat.not_lt.mpr now.le)
  | @ended entry _ _ _ asked source =>
      have value := source text _ rfl typed
      refine ⟨entry, value, asked.trans ?_⟩
      rw [requestAt?, value, AmountValue.positive?, if_pos positive]
      rfl

end PipelineRun

end WalletTopUp
