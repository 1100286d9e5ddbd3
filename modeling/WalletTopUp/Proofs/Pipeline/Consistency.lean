import WalletTopUp.Proofs.Pipeline.Loading
import WalletTopUp.Proofs.Pipeline.Supersession

/-!
# The books of a pipeline

Whenever a pipeline has done all that an input, a deadline or a completion asked for, its books
agree (`Pipeline.IsConsistent`): the check against the limits is there exactly for a settled amount
and is the one that the state gives; the quiet period runs only while the amount is unsettled and
every conversion has been superseded; nothing is on its way that the state no longer waits for; and
the limits are loaded once.

That no conversion is current during the quiet period rests on the order of the duties: whatever
begins the quiet period has cancelled the latest conversion before (`Pipeline.Disarms`).  The rest
is what the pipeline agrees on at rest (`Pipeline.AtRest`), which a shutdown leaves as it is.
-/

namespace WalletTopUp

namespace Pipeline

variable {settings : PipelineSettings} {pipeline next : Pipeline} {past : History}
  {told : List Effect} {ticket : Ticket}

/-! ## The quiet period -/

/-- A conversion has begun and got this ticket. -/
def IssuedConversion (ticket : Ticket) (past : History) : Prop :=
  Since (fun _ => True) (fun moment _ => IssuesConversion ticket moment) past

/-- No issued ticket is newer than the latest one. -/
theorem number_le_of_issued
    (reached : Reaches (Pipeline.turn settings) (start settings) past pipeline)
    (issued : IssuedConversion ticket past) : ticket.number ≤ pipeline.conversions.sequence := by
  refine reached.le_of_since issued (fun _ _ _ moved => (sequence_le_of_turn moved).1) ?_
  rintro earlier state turn next _ moved ⟨⟨entry, amount, begins⟩, rfl⟩
  exact Nat.le_of_eq (congrArg Ticket.number (begin_of_beginsConversion moved begins)).symm

/-- Whether a duty has to do with the quiet period. -/
def pauses : Duty → Bool
  | .cancelConversion | .arm => true
  | _ => false

/-- No check has to do with the quiet period. -/
theorem not_pauses_of_mem_validationDuties {state : ScreenState} {duty : Duty}
    (member : duty ∈ validationDuties state) : pauses duty = false := by
  simp only [validationDuties] at member
  split at member
  · rw [List.mem_singleton.mp member]
    rfl
  · cases member
  · split at member
    · simp only [List.mem_cons, List.not_mem_nil, or_false] at member
      rcases member with rfl | rfl | rfl | rfl <;> rfl
    · simp only [List.mem_cons, List.not_mem_nil, or_false] at member
      rcases member with rfl | rfl | rfl | rfl | rfl | rfl | rfl <;> rfl

/-- Only a switch of sides adds duties that begin the quiet period. -/
theorem added_of_pauses {state : ScreenState} {duty new : Duty}
    (member : new ∈ added state duty)
    (pausing : pauses new = true) : added state duty = [.cancelConversion, .arm] := by
  cases duty with
  | rearm =>
      simp only [added] at member ⊢
      split at member
      · cases member
      · next unsettled => simp only [unsettled, if_false, Bool.false_eq_true]
  | validate =>
      rw [not_pauses_of_mem_validationDuties member] at pausing
      cases pausing
  | convert =>
      simp only [added] at member
      split at member
      · cases List.mem_singleton.mp member
        cases pausing
      · cases List.mem_singleton.mp member
        cases pausing
      · split at member
        · cases member
        · cases List.mem_singleton.mp member
          cases pausing
  | revalidate | validateWaiting =>
      simp only [added] at member
      split at member
      · simp only [List.mem_cons, List.not_mem_nil, or_false] at member
        rcases member with rfl | rfl <;> cases pausing
      · cases member
  | settle derived =>
      simp only [added, List.mem_cons, List.not_mem_nil, or_false] at member
      rcases member with rfl | rfl | rfl <;> cases pausing
  | emit _ | announceSide | announceAmounts | announceSubmit =>
      rw [List.mem_singleton.mp member] at pausing
      cases pausing
  | publish _ | cancelConversion | cancelBonus | arm | forecast | loadLimits => cases member

/-- No finished request has to do with the quiet period. -/
theorem not_pauses_of_mem_completionDuties {completion : Completion} {duty : Duty}
    (member : duty ∈ pipeline.completionDuties completion) : pauses duty = false := by
  cases completion with
  | converted ticket derived =>
      simp only [completionDuties] at member
      split at member
      · rw [List.mem_singleton.mp member]
        rfl
      · cases member
  | limitsLoaded limits =>
      cases limits with
      | none => cases member
      | some limits =>
          simp only [completionDuties, List.mem_cons, List.not_mem_nil, or_false] at member
          rcases member with rfl | rfl <;> rfl
  | bonusLoaded ticket bonus =>
      simp only [completionDuties] at member
      split at member
      · simp only [List.mem_cons, List.not_mem_nil, or_false] at member
        rcases member with rfl | rfl | rfl <;> rfl
      · cases member

/-- No finished request asks for a conversion. -/
theorem convert_not_mem_completionDuties {completion : Completion} :
    .convert ∉ pipeline.completionDuties completion := by
  intro member
  cases completion with
  | converted ticket derived =>
      simp only [completionDuties] at member
      split at member
      · cases List.mem_singleton.mp member
      · cases member
  | limitsLoaded limits =>
      cases limits with
      | none => cases member
      | some limits =>
          simp only [completionDuties, List.mem_cons, reduceCtorEq, List.not_mem_nil,
            or_false] at member
  | bonusLoaded ticket bonus =>
      simp only [completionDuties] at member
      split at member
      · simp only [List.mem_cons, reduceCtorEq, List.not_mem_nil, or_false] at member
      · cases member

/-- An edit cancels the latest conversion before it begins the quiet period. -/
theorem pauses_inputDuties (input : AmountInput) :
    .cancelConversion ∉ (inputDuties input).tail
      ∧ (.arm ∈ inputDuties input → .cancelConversion ∈ inputDuties input) := by
  cases input with
  | setup methods currency | switchCurrency | selectMethod method => simp [inputDuties]
  | edit text =>
      simp only [inputDuties]
      split <;> simp

/-- Whatever begins the quiet period first cancels the latest conversion. -/
structure Disarms (past : History) (pipeline : Pipeline) : Prop where
  cancelsFirst : .cancelConversion ∉ pipeline.duties.tail
  alone : .convert ∈ pipeline.duties → pipeline.duties = [.convert]
  /-- As long as the latest conversion is not superseded, there is no quiet period. -/
  unarmed : IssuedConversion pipeline.conversions.ticket past →
    pipeline.debouncer.deadline = none
      ∧ (.arm ∈ pipeline.duties → .cancelConversion ∈ pipeline.duties)

/-- At the start nothing begins the quiet period. -/
theorem disarms_start : Disarms [] (start settings) where
  cancelsFirst member := by cases member
  alone member := by cases member
  unarmed issued := by cases issued

/-- A turn that begins no conversion issues no ticket. -/
theorem IssuedConversion.earlier {turn : Turn}
    (issued : IssuedConversion ticket (⟨pipeline, turn⟩ :: past))
    (idle : ¬ Does .convert ⟨pipeline, turn⟩) : IssuedConversion ticket past := by
  cases issued with
  | now issues =>
      obtain ⟨⟨entry, amount, does, _⟩, _⟩ := issues
      exact (idle does).elim
  | later _ before => exact before

/-- Only the next duty may cancel the latest conversion. -/
theorem Disarms.not_cancels_rest {duty : Duty} {rest : List Duty}
    (disarms : Disarms past pipeline)
    (head : pipeline.duties = duty :: rest) : .cancelConversion ∉ rest := by
  have first := disarms.cancelsFirst
  rw [head] at first
  exact first

/-- Doing a duty while the latest conversion is not superseded does not begin the quiet period. -/
theorem Disarms.unarmed_performs {duty : Duty} {rest : List Duty} {now : Instant}
    {sink : Sink TaskName}
    (disarms : Disarms past pipeline)
    (reached : Reaches (Pipeline.turn settings) (start settings) past pipeline)
    (running : pipeline.running = true)
    (head : pipeline.duties = duty :: rest)
    (done : Performed pipeline duty rest next)
    (cancelled : duty = .cancelConversion → next.conversions = pipeline.conversions.cancel)
    (issued : IssuedConversion next.conversions.ticket (⟨pipeline, .own now sink⟩ :: past)) :
    next.debouncer.deadline = none ∧ (.arm ∈ next.duties → .cancelConversion ∈ next.duties) := by
  -- What the duty adds keeps to the order, so only what is left may break it.
  have adds : (.arm ∈ rest → .cancelConversion ∈ next.duties) →
      .arm ∈ next.duties → .cancelConversion ∈ next.duties := by
    intro left member
    rw [done.duties] at member
    rcases List.mem_append.mp member with new | later
    · rw [done.duties, added_of_pauses new rfl]
      exact List.mem_cons_self
    · exact left later
  by_cases converts : duty = .convert
  · subst converts
    have awaits : pipeline.AwaitsDerived := (ready_of_anyOrder reached running).before head
    have alone := disarms.alone (head ▸ List.mem_cons_self)
    obtain ⟨_, rfl⟩ := List.cons.inj (head.symm.trans alone)
    refine ⟨(congrArg Debouncer.deadline (done.debouncer (by simp))).trans awaits.unarmed,
      adds fun left => ?_⟩
    cases left
  · have before := issued.earlier (not_does_of_head head converts)
    -- A cancellation gives a ticket that was never issued.
    by_cases cancels : duty = .cancelConversion
    · rw [cancelled cancels] at before
      exact (Nat.not_succ_le_self _ (number_le_of_issued reached before)).elim
    · rw [done.conversions cancels converts] at before
      obtain ⟨unarmed, cancelsBefore⟩ := disarms.unarmed before
      have notArms : .arm ∉ pipeline.duties := by
        intro member
        have first := cancelsBefore member
        rw [head] at first
        rcases List.mem_cons.mp first with same | left
        · exact cancels same.symm
        · exact disarms.not_cancels_rest head left
      rw [head] at notArms
      have silent : duty ≠ .arm := fun same => notArms (same ▸ List.mem_cons_self)
      exact ⟨(congrArg Debouncer.deadline (done.debouncer silent)).trans unarmed,
        adds fun left => (notArms (List.mem_cons_of_mem _ left)).elim⟩

/-- Performing a duty keeps the order: the conversion is cancelled before the deadline is set. -/
theorem Disarms.performs {duty : Duty} {rest : List Duty} {now : Instant} {sink : Sink TaskName}
    (disarms : Disarms past pipeline)
    (reached : Reaches (Pipeline.turn settings) (start settings) past pipeline)
    (running : pipeline.running = true)
    (head : pipeline.duties = duty :: rest) :
    Disarms (⟨pipeline, .own now sink⟩ :: past)
      (({ pipeline with duties := rest } : Pipeline).perform settings now duty) := by
  have done := performed settings now pipeline duty rest
  refine ⟨fun member => ?_, fun member => ?_,
    disarms.unarmed_performs reached running head done fun same => by rw [same]; rfl⟩
  · rw [done.duties] at member
    cases new : added pipeline.state duty with
    | nil =>
        rw [new] at member
        exact disarms.not_cancels_rest head (List.mem_of_mem_tail member)
    | cons first others =>
        rw [new] at member
        rcases List.mem_append.mp member with other | left
        · have pausing := added_of_pauses (new ▸ List.mem_cons_of_mem _ other) rfl
          obtain ⟨_, rfl⟩ := List.cons.inj (new.symm.trans pausing)
          cases List.mem_singleton.mp other
        · exact disarms.not_cancels_rest head left
  · rw [done.duties] at member
    rcases List.mem_append.mp member with new | left
    · rcases settles_of_mem_added new rfl with ⟨_, _, same⟩ | ⟨_, _, same⟩ <;> cases same
    · have same := disarms.alone (head ▸ List.mem_cons_of_mem _ left)
      obtain ⟨_, rfl⟩ := List.cons.inj (head.symm.trans same)
      cases left

/-- Taking something that asks for no pause. -/
theorem Disarms.takes {duties : List Duty} {turn : Turn}
    (disarms : Disarms past pipeline)
    (free : pipeline.duties = [])
    (same : next.duties = duties)
    (silent : ∀ duty ∈ duties, pauses duty = false)
    (alone : .convert ∈ duties → duties = [.convert])
    (conversions : next.conversions = pipeline.conversions)
    (deadline : next.debouncer.deadline = none ∨ next.debouncer = pipeline.debouncer) :
    Disarms (⟨pipeline, turn⟩ :: past) next := by
  subst same
  refine ⟨fun member => ?_, alone, fun issued => ?_⟩
  · cases silent _ (List.mem_of_mem_tail member)
  · have before := issued.earlier (not_does_of_free free)
    rw [conversions] at before
    refine ⟨?_, fun member => ?_⟩
    · rcases deadline with none | same
      · exact none
      · rw [same]
        exact (disarms.unarmed before).1
    · cases silent _ member

/-- A turn that leaves the duties as they are. -/
theorem Disarms.keeps {turn : Turn}
    (disarms : Disarms past pipeline)
    (idle : ¬ Does .convert ⟨pipeline, turn⟩)
    (duties : next.duties = pipeline.duties)
    (debouncer : next.debouncer = pipeline.debouncer)
    (sequence : next.conversions.sequence = pipeline.conversions.sequence) :
    Disarms (⟨pipeline, turn⟩ :: past) next := by
  have ticket : next.conversions.ticket = pipeline.conversions.ticket := congrArg Ticket.mk sequence
  obtain ⟨cancelsFirst, alone, unarmed⟩ := disarms
  rw [← duties] at cancelsFirst alone
  refine ⟨cancelsFirst, alone, fun issued => ?_⟩
  rw [duties, debouncer]
  exact unarmed (ticket ▸ issued.earlier idle)

/-- Every step of the pipeline's own task keeps that order. -/
theorem Disarms.ownStep {now : Instant} {sink : Sink TaskName}
    (disarms : Disarms past pipeline)
    (reached : Reaches (Pipeline.turn settings) (start settings) past pipeline)
    (running : pipeline.running = true)
    (step : OwnStep settings now sink pipeline next) :
    Disarms (⟨pipeline, .own now sink⟩ :: past) next := by
  cases step with
  | stops free _ =>
      refine ⟨disarms.cancelsFirst, disarms.alone, fun issued => ?_⟩
      have bound := number_le_of_issued reached (issued.earlier (not_does_of_free free))
      exact (Nat.not_succ_le_self _ bound).elim
  | @input input rest free _ =>
      obtain ⟨first, order⟩ := pauses_inputDuties input
      refine ⟨first, fun member => ?_, fun issued => ⟨?_, order⟩⟩
      · cases not_settles_of_mem_inputDuties member
      · exact (disarms.unarmed (issued.earlier (not_does_of_free free))).1
  | deadline caughtUp _ =>
      refine disarms.takes caughtUp.1 rfl (fun duty member => ?_) (fun _ => rfl) rfl (.inl rfl)
      rw [List.mem_singleton.mp member]
      rfl
  | completion caughtUp _ =>
      exact disarms.takes caughtUp.1 rfl (fun _ => not_pauses_of_mem_completionDuties)
        (fun member => (convert_not_mem_completionDuties member).elim) rfl (.inr rfl)
  | waits head _ => exact disarms.keeps (not_does_of_head head (by simp)) rfl rfl rfl
  | @tells effect rest head _ =>
      refine ⟨fun member => ?_, fun member => ?_, fun issued => ?_⟩
      · exact disarms.not_cancels_rest head (List.mem_of_mem_tail member)
      · cases head.symm.trans (disarms.alone (head ▸ List.mem_cons_of_mem _ member))
      · obtain ⟨unarmed, order⟩ :=
          disarms.unarmed (issued.earlier (not_does_of_head head (by simp)))
        refine ⟨unarmed, fun member => ?_⟩
        have first := order (head ▸ List.mem_cons_of_mem _ member)
        rw [head] at first
        rcases List.mem_cons.mp first with same | left
        · cases same
        · exact left
  | performs head _ => exact disarms.performs reached running head

/-- In every run whatever begins the quiet period has cancelled the latest conversion before. -/
theorem disarms_of_reaches
    (reached : Reaches (Pipeline.turn settings) (start settings) past pipeline) :
    Disarms past pipeline := by
  induction reached with
  | start => exact disarms_start
  | step earlier moved ih =>
      rcases step_of_turn moved with ⟨now, sink, rfl, running, step⟩ | step
      · exact ih.ownStep earlier running step
      · have background := background_of_backgroundStep step
        refine ih.keeps ?_ background.duties background.debouncer background.conversions
        rintro ⟨⟨now, sink, same⟩, _⟩
        have same : _ = Turn.own now sink := same
        subst same
        cases step

/-- During the quiet period every conversion has been superseded. -/
theorem stale_of_armed
    (reached : Reaches (Pipeline.turn settings) (start settings) past pipeline)
    (armed : pipeline.debouncer.deadline ≠ none)
    (issued : IssuedConversion ticket past) : pipeline.conversions.isCurrent ticket = false := by
  refine Bool.eq_false_iff.mpr fun current => armed ?_
  have latest := SwitchLatest.isCurrent_iff.mp current
  exact ((disarms_of_reaches reached).unarmed (latest ▸ issued)).1

/-! ## When everything has been handled -/

/-- What is on its way and what the state says agree with each other. -/
structure Coherent (pipeline : Pipeline) : Prop where
  unsettled : pipeline.state.settled = false → pipeline.state.bounds = none
  checked : pipeline.state.settled = true → pipeline.state.bounds = pipeline.state.verdict
  armed : pipeline.debouncer.deadline ≠ none → pipeline.state.settled = false
  converting : pipeline.Converting → pipeline.state.settled = false
  rewarded : pipeline.Forecasting ∨ pipeline.state.bonus ≠ none →
    pipeline.state.bounds = some .within

/-- At rest what is on its way agrees with what the state says. -/
theorem AtRest.coherent (atRest : AtRest True told pipeline) : pipeline.Coherent where
  unsettled unsettled := (atRest.unsettled unsettled).1
  checked := atRest.checked trivial
  armed armed := (atRest.armed armed).1
  converting := atRest.converting
  rewarded either := (atRest.rewarded either).1

/-- It still agrees when the pipeline stops, which drops everything on its way. -/
theorem Coherent.stop (coherent : pipeline.Coherent) (accounted : pipeline.Accounted) :
    pipeline.stop.Coherent where
  unsettled := coherent.unsettled
  checked := coherent.checked
  armed := coherent.armed
  converting still := (accounted.not_converting_cancel still).elim
  rewarded either :=
    coherent.rewarded (.inr (either.resolve_left fun still =>
      accounted.not_forecasting_cancel still))

/-- Whatever goes on in the background, what is on its way agrees with the state. -/
theorem Coherent.background (coherent : pipeline.Coherent)
    (background : Background pipeline next) : next.Coherent := by
  obtain ⟨unsettled, checked, armed, converting, rewarded⟩ := coherent
  rw [← background.state] at unsettled checked armed converting rewarded
  refine ⟨unsettled, checked, ?_, fun still => converting (background.converting still), ?_⟩
  · rw [background.debouncer]
    exact armed
  · rw [background.forecasting]
    exact rewarded

/-- Only a shutdown stops a pipeline. -/
theorem stop_of_ownStep {now : Instant} {sink : Sink TaskName}
    (running : pipeline.running = true)
    (step : OwnStep settings now sink pipeline next) :
    next.running = true ∨ (pipeline.duties = [] ∧ next = pipeline.stop) := by
  cases step with
  | stops free _ => exact .inr ⟨free, rfl⟩
  | @performs duty rest _ _ =>
      exact .inl ((performed settings now pipeline duty rest).running.trans running)
  | _ => exact .inl running

/-- A pipeline with nothing left to do is coherent, also after its shutdown. -/
theorem coherent_of_reaches
    (reached : Reaches (Pipeline.turn settings) (start settings) past pipeline)
    (inOrder : AmountInput.InOrder (sent past))
    (free : pipeline.duties = []) : pipeline.Coherent := by
  induction reached with
  | start => exact ((ready_of_inOrder .start inOrder rfl).atRest free).coherent
  | step earlier moved ih =>
      have inOrderEarlier := inOrder.sublist (sent_initial (List.suffix_cons _ _)).sublist
      rcases step_of_turn moved with ⟨now, sink, rfl, running, step⟩ | step
      · rcases stop_of_ownStep running step with still | ⟨freeBefore, rfl⟩
        · exact ((ready_of_inOrder (earlier.step moved) inOrder still).atRest free).coherent
        · exact (ih inOrderEarlier freeBefore).stop (accounted_of_reaches earlier)
      · have background := background_of_backgroundStep step
        exact (ih inOrderEarlier (background.duties.symm.trans free)).background background

/-- The books of a pipeline agree. -/
structure IsConsistent (past : History) (pipeline : Pipeline) : Prop where
  /-- A settled amount has the verdict that its method and its limits give, if they give one; an
  unsettled amount has none. -/
  bounds : pipeline.state.bounds =
    if pipeline.state.settled then pipeline.state.verdict else none
  /-- During the quiet period the amount is unsettled, and no conversion is current. -/
  armed : pipeline.debouncer.deadline ≠ none →
    pipeline.state.settled = false
      ∧ ∀ ticket, IssuedConversion ticket past → pipeline.conversions.isCurrent ticket = false
  /-- While the amount is settled no conversion is in flight or waiting to be taken over. -/
  settled : pipeline.state.settled = true → ¬ pipeline.Converting
  /-- A bonus is on its way, or known, only for an amount within the limits. -/
  rewarded : pipeline.Forecasting ∨ pipeline.state.bonus ≠ none →
    pipeline.state.bounds = some .within
  /-- At most one request for the limits is unanswered. -/
  single : ∀ call other, AwaitsLimits call past → AwaitsLimits other past → call = other
  /-- The limits have been asked for only while they were unknown and no other request for them was
  unanswered. -/
  needed : ∀ moment earlier, moment :: earlier <:+ past →
    ∀ call request, Asks .limits call request moment →
      moment.before.state.limits = none ∧ ∀ former, ¬ AwaitsLimits former earlier
  /-- Limits that have ever been known are the limits now. -/
  kept : ∀ moment ∈ past, ∀ limits, moment.before.state.limits = some limits →
    pipeline.state.limits = some limits

/-- With nothing left to do the parts of the state agree with each other and with what has been
told. -/
theorem consistent_of_reaches
    (reached : Reaches (Pipeline.turn settings) (start settings) past pipeline)
    (inOrder : AmountInput.InOrder (sent past))
    (free : pipeline.duties = []) : IsConsistent past pipeline := by
  have coherent := coherent_of_reaches reached inOrder free
  exact {
    bounds := by
      split
      · next settled => exact coherent.checked settled
      · next unsettled => exact coherent.unsettled (Bool.eq_false_iff.mpr unsettled)
    armed := fun armed => ⟨coherent.armed armed, fun _ => stale_of_armed reached armed⟩
    settled := fun settled converting =>
      Bool.noConfusion ((coherent.converting converting).symm.trans settled)
    rewarded := coherent.rewarded
    single := fun _ _ => awaitsLimits_unique reached
    needed := fun _ _ suffix _ _ asks => limits_asked_alone (reached.of_suffix suffix) asks
    kept := fun _ member _ => limits_kept reached member }

end Pipeline

namespace PipelineRun

/-- **The books agree whenever everything has been handled.**  In every run in which the methods are
set up at most once and none is selected before that, however the services answer and whatever comes
in between: once a pipeline has done all that the input, deadline or completion taken last asked
for, it is consistent. -/
theorem consistent_when_handled {settings : PipelineSettings}
    {past : List (Moment PipelineRun Move)} {run : PipelineRun}
    (reached : Reaches (PipelineRun.move settings) (start settings) past run)
    (inOrder : AmountInput.InOrder (Pipeline.sent (turns past)))
    (handled : run.pipeline.duties = []) :
    Pipeline.IsConsistent (turns past) run.pipeline :=
  Pipeline.consistent_of_reaches (reaches_turns reached) inOrder handled

theorem consistent_when_handled_of_submittable :
    ∃ past, Reaches (PipelineRun.move {}) (start {}) past Sample.run
      ∧ AmountInput.InOrder (Pipeline.sent (turns past))
      ∧ Sample.run.pipeline.duties = []
      ∧ Sample.run.pipeline.state.settled = true
      ∧ Pipeline.IsConsistent (turns past) Sample.run.pipeline := by
  obtain ⟨past, reached, inOrder⟩ := Sample.reaches_run
  exact ⟨past, reached, inOrder, rfl, rfl, consistent_when_handled reached inOrder rfl⟩

end PipelineRun

end WalletTopUp
