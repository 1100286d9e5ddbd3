import WalletTopUp.Proofs.Pipeline.Background

/-!
# Contracts for duties

A contract says what holds when a pipeline is at rest, what holds before each of its duties, and
which inputs it may be handed.  `Contract.Ready` says that the duties a pipeline still has keep a
contract to their end, each on the state that the ones before it leave: one rule for each kind of
duty (`Ready.publish`, `Ready.tell`, ...).  A contract is kept by every run once it is shown for an
input, a deadline and a completion that is taken at rest (`Contract.Kept`,
`Contract.Kept.ready_of_reaches`).  The background never enters into these proofs, because whatever
it does leaves a ready pipeline ready (`Ready.background`).
-/

namespace WalletTopUp

namespace Pipeline

/-- The effect that a duty hands to the presentation layer. -/
def emits? : Duty → Option Effect
  | .emit effect => some effect
  | _ => none

/-- What is promised about a pipeline, given what the presentation layer has been told. -/
structure Contract where
  /-- What holds when there is nothing left to do of what was taken last. -/
  atRest : List Effect → Pipeline → Prop
  /-- What holds before a duty is done. -/
  before : Duty → Pipeline → Prop
  /-- What an input has to satisfy when it is taken. -/
  admits : AmountInput → Pipeline → Prop
  atRest_background : ∀ {told : List Effect} {earlier later : Pipeline},
    Background earlier later → atRest told earlier → atRest told later
  before_background : ∀ {duty : Duty} {earlier later : Pipeline},
    Background earlier later → before duty earlier → before duty later

namespace Contract

variable {contract : Contract} {settings : PipelineSettings} {told : List Effect}
  {pipeline : Pipeline} {rest : List Duty}

/-- The duties that are left keep the contract to their end. -/
inductive Ready (contract : Contract) (settings : PipelineSettings) :
    List Effect → Pipeline → Prop where
  | done {told : List Effect} {pipeline : Pipeline}
      (free : pipeline.duties = [])
      (atRest : contract.atRest told pipeline) :
      Ready contract settings told pipeline
  | tell {told : List Effect} {pipeline : Pipeline} {effect : Effect} {rest : List Duty}
      (head : pipeline.duties = .emit effect :: rest)
      (before : contract.before (.emit effect) pipeline)
      (next : Ready contract settings (effect :: told) { pipeline with duties := rest }) :
      Ready contract settings told pipeline
  | perform {told : List Effect} {pipeline : Pipeline} {duty : Duty} {rest : List Duty}
      (head : pipeline.duties = duty :: rest)
      (silent : ∀ effect, duty ≠ .emit effect)
      (before : contract.before duty pipeline)
      (next : ∀ now, Ready contract settings told
        (({ pipeline with duties := rest } : Pipeline).perform settings now duty)) :
      Ready contract settings told pipeline

namespace Ready

/-- A ready pipeline with nothing left to do keeps the promise for rest. -/
theorem atRest (ready : Ready contract settings told pipeline) (free : pipeline.duties = []) :
    contract.atRest told pipeline := by
  cases ready with
  | done _ atRest => exact atRest
  | tell head _ _ => rw [free] at head; cases head
  | perform head _ _ _ => rw [free] at head; cases head

/-- A ready pipeline keeps the promise for the duty that comes next. -/
theorem before {duty : Duty} (ready : Ready contract settings told pipeline)
    (head : pipeline.duties = duty :: rest) : contract.before duty pipeline := by
  cases ready with
  | done free _ => rw [free] at head; cases head
  | tell here before _ =>
      rw [here] at head
      cases head
      exact before
  | perform here _ before _ =>
      rw [here] at head
      cases head
      exact before

/-- Telling the presentation layer leads on to the next duty. -/
theorem of_tell {effect : Effect} (ready : Ready contract settings told pipeline)
    (head : pipeline.duties = .emit effect :: rest) :
    Ready contract settings (effect :: told) { pipeline with duties := rest } := by
  cases ready with
  | done free _ => rw [free] at head; cases head
  | tell here _ next =>
      rw [here] at head
      cases head
      exact next
  | perform here silent _ _ =>
      rw [here] at head
      cases head
      exact (silent _ rfl).elim

/-- So does every other duty. -/
theorem of_perform {duty : Duty} (ready : Ready contract settings told pipeline)
    (head : pipeline.duties = duty :: rest)
    (silent : ∀ effect, duty ≠ .emit effect) (now : Instant) :
    Ready contract settings told
      (({ pipeline with duties := rest } : Pipeline).perform settings now duty) := by
  cases ready with
  | done free _ => rw [free] at head; cases head
  | tell here _ _ =>
      rw [here] at head
      cases head
      exact (silent _ rfl).elim
  | perform here _ _ next =>
      rw [here] at head
      cases head
      exact next now

/-- **Whatever goes on in the background, a ready pipeline stays ready.** -/
theorem background {later : Pipeline} (ready : Ready contract settings told pipeline)
    (background : Background pipeline later)
    (accountedEarlier : pipeline.Accounted)
    (accountedLater : later.Accounted) : Ready contract settings told later := by
  induction ready generalizing later with
  | done free atRest =>
      exact .done (background.duties.trans free) (contract.atRest_background background atRest)
  | tell head before _ ih =>
      exact .tell (background.duties.trans head) (contract.before_background background before)
        (ih (background.withDuties _) (accountedEarlier.withDuties _)
          (accountedLater.withDuties _))
  | perform head silent before _ ih =>
      refine .perform (background.duties.trans head) silent
        (contract.before_background background before) fun now => ih now ?_ ?_ ?_
      · exact (background.withDuties _).perform (accountedEarlier.withDuties _)
          (accountedLater.withDuties _) now _
      · exact (accountedEarlier.withDuties _).perform now _
      · exact (accountedLater.withDuties _).perform now _

/-! ## One rule for each duty -/

/-- A duty that tells nobody anything. -/
theorem act {duty : Duty}
    (head : pipeline.duties = duty :: rest)
    (silent : emits? duty = none)
    (before : contract.before duty pipeline)
    (next : ∀ now, Ready contract settings told
      (({ pipeline with duties := rest } : Pipeline).perform settings now duty)) :
    Ready contract settings told pipeline := by
  refine .perform head (fun effect same => ?_) before next
  rw [same] at silent
  cases silent

/-- Publishing leads on with the state after the action. -/
theorem publish {action : ScreenAction}
    (head : pipeline.duties = .publish action :: rest)
    (before : contract.before (.publish action) pipeline)
    (next : Ready contract settings told
      { pipeline with state := pipeline.state.next action, duties := rest }) :
    Ready contract settings told pipeline :=
  .act head rfl before fun _ => next

/-- Announcing the side leads on with the effect that tells it. -/
theorem announceSide
    (head : pipeline.duties = .announceSide :: rest)
    (before : contract.before .announceSide pipeline)
    (next : Ready contract settings told
      { pipeline with
        duties := .emit (.currencySwitched pipeline.state.entry.selected) :: rest }) :
    Ready contract settings told pipeline :=
  .act head rfl before fun _ => next

/-- Announcing the amounts leads on with the effect that tells them. -/
theorem announceAmounts
    (head : pipeline.duties = .announceAmounts :: rest)
    (before : contract.before .announceAmounts pipeline)
    (next : Ready contract settings told
      { pipeline with duties := .emit (.conversionValue pipeline.state.entry) :: rest }) :
    Ready contract settings told pipeline :=
  .act head rfl before fun _ => next

/-- Announcing the submit control leads on with the effect that tells what may be done. -/
theorem announceSubmit
    (head : pipeline.duties = .announceSubmit :: rest)
    (before : contract.before .announceSubmit pipeline)
    (next : Ready contract settings told
      { pipeline with
        duties := .emit (.setSubmitEnabled (Gate.canSubmit pipeline.state)) :: rest }) :
    Ready contract settings told pipeline :=
  .act head rfl before fun _ => next

/-- Cancelling leads on with no conversion under way. -/
theorem cancelConversion
    (head : pipeline.duties = .cancelConversion :: rest)
    (before : contract.before .cancelConversion pipeline)
    (next : Ready contract settings told
      { pipeline with conversions := pipeline.conversions.cancel, duties := rest }) :
    Ready contract settings told pipeline :=
  .act head rfl before fun _ => next

/-- Cancelling leads on with no forecast under way. -/
theorem cancelBonus
    (head : pipeline.duties = .cancelBonus :: rest)
    (before : contract.before .cancelBonus pipeline)
    (next : Ready contract settings told
      { pipeline with bonuses := pipeline.bonuses.cancel, duties := rest }) :
    Ready contract settings told pipeline :=
  .act head rfl before fun _ => next

/-- Arming leads on with the deadline set, at whatever time that happens. -/
theorem arm
    (head : pipeline.duties = .arm :: rest)
    (before : contract.before .arm pipeline)
    (next : ∀ now, Ready contract settings told
      { pipeline with debouncer := pipeline.debouncer.arm now, duties := rest }) :
    Ready contract settings told pipeline :=
  .act head rfl before next

/-- Arming anew depends on whether the amount has settled. -/
theorem rearm
    (head : pipeline.duties = .rearm :: rest)
    (before : contract.before .rearm pipeline)
    (settled : pipeline.state.settled = true →
      Ready contract settings told { pipeline with duties := rest })
    (unsettled : pipeline.state.settled = false →
      Ready contract settings told { pipeline with duties := .cancelConversion :: .arm :: rest }) :
    Ready contract settings told pipeline := by
  refine .act head rfl before fun _ => ?_
  simp only [Pipeline.perform]
  split
  · next state => exact settled state
  · next state => exact unsettled (Bool.eq_false_iff.mpr state)

/-- A conversion derives the other side at once, or the broker is going to be asked. -/
theorem convert
    (head : pipeline.duties = .convert :: rest)
    (before : contract.before .convert pipeline)
    (derives : ∀ derived, Ready contract settings told
      { pipeline with duties := .settle derived :: rest })
    (asks : ∀ amount, Ready contract settings told
      (({ pipeline with duties := rest } : Pipeline).startConversion settings amount)) :
    Ready contract settings told pipeline := by
  refine .act head rfl before fun _ => ?_
  simp only [Pipeline.perform]
  split
  · exact derives .unknown
  · exact derives .zero
  · split
    · exact asks _
    · exact derives .unknown

/-- Settling leads on with what it adds: the publication, the announcement and the check. -/
theorem settle {derived : AmountValue}
    (head : pipeline.duties = .settle derived :: rest)
    (before : contract.before (.settle derived) pipeline)
    (next : Ready contract settings told
      { pipeline with
        duties :=
          .publish (.conversionSettled derived) :: .announceAmounts :: .validate :: rest }) :
    Ready contract settings told pipeline :=
  .act head rfl before fun _ => next

/-- A check leads on with what it asks for in this state. -/
theorem validate
    (head : pipeline.duties = .validate :: rest)
    (before : contract.before .validate pipeline)
    (next : Ready contract settings told
      { pipeline with duties := validationDuties pipeline.state ++ rest }) :
    Ready contract settings told pipeline :=
  .act head rfl before fun _ => next

/-- Checking anew depends on whether the amount has settled. -/
theorem revalidate
    (head : pipeline.duties = .revalidate :: rest)
    (before : contract.before .revalidate pipeline)
    (settled : pipeline.state.settled = true →
      Ready contract settings told { pipeline with duties := .cancelBonus :: .validate :: rest })
    (unsettled : pipeline.state.settled = false →
      Ready contract settings told { pipeline with duties := rest }) :
    Ready contract settings told pipeline := by
  refine .act head rfl before fun _ => ?_
  simp only [Pipeline.perform]
  split
  · next state => exact settled state
  · next state => exact unsettled (Bool.eq_false_iff.mpr state)

/-- A check that has been waiting for the limits is made if the amount has settled unchecked. -/
theorem validateWaiting
    (head : pipeline.duties = .validateWaiting :: rest)
    (before : contract.before .validateWaiting pipeline)
    (waiting : pipeline.state.settled = true → pipeline.state.bounds = none →
      Ready contract settings told { pipeline with duties := .validate :: rest })
    (otherwise : pipeline.state.settled = false ∨ pipeline.state.bounds ≠ none →
      Ready contract settings told { pipeline with duties := rest }) :
    Ready contract settings told pipeline := by
  refine .act head rfl before fun _ => ?_
  simp only [Pipeline.perform]
  split
  · next both =>
      obtain ⟨settled, unchecked⟩ := Bool.and_eq_true_iff.mp both
      exact waiting settled (Option.isNone_iff_eq_none.mp unchecked)
  · next either =>
      refine otherwise ?_
      cases state : pipeline.state.settled with
      | false => exact .inl rfl
      | true =>
          refine .inr fun unchecked => either ?_
          rw [state, unchecked]
          rfl

/-- A forecast is asked for if there is a positive amount to be spent. -/
theorem forecast
    (head : pipeline.duties = .forecast :: rest)
    (before : contract.before .forecast pipeline)
    (nothing : pipeline.state.entry.fiat.positive? = none →
      Ready contract settings told { pipeline with duties := rest })
    (asks : ∀ fiat, pipeline.state.entry.fiat.positive? = some fiat →
      Ready contract settings told
        (({ pipeline with duties := rest } : Pipeline).startForecast settings fiat)) :
    Ready contract settings told pipeline := by
  refine .act head rfl before fun _ => ?_
  cases fiat : pipeline.state.entry.fiat.positive? with
  | none => simpa only [Pipeline.perform, fiat] using nothing fiat
  | some amount => simpa only [Pipeline.perform, fiat] using asks amount fiat

/-- Loading leads on with the request for the limits under way. -/
theorem loadLimits
    (head : pipeline.duties = .loadLimits :: rest)
    (before : contract.before .loadLimits pipeline)
    (next : Ready contract settings told
      ({ pipeline with duties := rest } : Pipeline).startLimits) :
    Ready contract settings told pipeline :=
  .act head rfl before fun _ => next

end Ready

/-! ## Runs -/

/-- Whatever a pipeline at rest takes, its duties keep the contract. -/
structure Kept (contract : Contract) (settings : PipelineSettings) : Prop where
  start : contract.atRest [] (Pipeline.start settings)
  input : ∀ {told : List Effect} {pipeline : Pipeline} {input : AmountInput}
    {rest : List AmountInput},
    pipeline.Accounted → contract.atRest told pipeline → contract.admits input pipeline →
      Ready contract settings told
        { pipeline with inputs := rest, duties := inputDuties input }
  deadline : ∀ {told : List Effect} {pipeline : Pipeline},
    pipeline.Accounted → contract.atRest told pipeline → pipeline.debouncer.deadline ≠ none →
      Ready contract settings told
        { pipeline with debouncer := pipeline.debouncer.disarm, duties := [.convert] }
  completion : ∀ {told : List Effect} {pipeline : Pipeline} {completion : Completion}
    {rest : List Completion},
    pipeline.Accounted → contract.atRest told pipeline → pipeline.running = true →
      pipeline.completions = completion :: rest →
      Ready contract settings told (pipeline.taking completion rest)

/-- Every input was admitted when it was taken. -/
def AdmitsAll (contract : Contract) (past : History) : Prop :=
  ∀ moment ∈ past, ∀ input rest, moment.before.duties = [] →
    moment.before.inputs = input :: rest → contract.admits input moment.before

/-- Only a deadline that has been set elapses. -/
theorem deadline_ne_none_of_elapsed {debouncer : Debouncer} {now : Instant}
    (elapsed : debouncer.elapsed now = true) : debouncer.deadline ≠ none := by
  intro unarmed
  simp only [Debouncer.elapsed, unarmed, Option.any_none, Bool.false_eq_true] at elapsed

/-- A step of the pipeline's own task leads from a ready pipeline to a ready one. -/
theorem Kept.ownStep {past : History} {now : Instant} {sink : Sink TaskName} {next : Pipeline}
    (kept : contract.Kept settings)
    (accounted : pipeline.Accounted)
    (ready : contract.Ready settings (Pipeline.told past) pipeline)
    (admits : contract.AdmitsAll (⟨pipeline, .own now sink⟩ :: past))
    (running : pipeline.running = true)
    (step : OwnStep settings now sink pipeline next)
    (goesOn : next.running = true) :
    contract.Ready settings (Pipeline.told (⟨pipeline, .own now sink⟩ :: past)) next := by
  cases step with
  | stops _ _ => cases goesOn
  | input free waiting =>
      rw [told_cons_none (told?_of_free free)]
      exact kept.input accounted (ready.atRest free)
        (admits _ List.mem_cons_self _ _ free waiting)
  | deadline caughtUp elapsed =>
      rw [told_cons_none (told?_of_free caughtUp.1)]
      exact kept.deadline accounted (ready.atRest caughtUp.1) (deadline_ne_none_of_elapsed elapsed)
  | completion caughtUp queued =>
      rw [told_cons_none (told?_of_free caughtUp.1)]
      exact kept.completion accounted (ready.atRest caughtUp.1) running queued
  | waits head refused =>
      have silent : told? ⟨pipeline, .own now sink⟩ = none := by
        simp only [told?, head, refused, if_true]
      rw [told_cons_none silent]
      exact ready
  | @tells effect rest head delivered =>
      have loud : told? ⟨pipeline, .own now sink⟩ = some effect := by
        simp only [told?, head, delivered, if_false]
      rw [Pipeline.told, List.filterMap_cons_some loud]
      exact ready.of_tell head
  | performs head silent =>
      rw [told_cons_none (told?_of_silent head silent)]
      exact ready.of_perform head silent now

/-- **A pipeline that has not been shut down is ready at every moment of every run.** -/
theorem Kept.ready_of_reaches {past : History}
    (kept : contract.Kept settings)
    (reached : Reaches (Pipeline.turn settings) (Pipeline.start settings) past pipeline)
    (admits : contract.AdmitsAll past)
    (running : pipeline.running = true) :
    contract.Ready settings (Pipeline.told past) pipeline := by
  induction reached with
  | start => exact .done rfl kept.start
  | @step past middle next turn earlier moved ih =>
      have accounted := accounted_of_reaches earlier
      have admitsEarlier : contract.AdmitsAll past := fun moment member =>
        admits moment (List.mem_cons_of_mem _ member)
      rcases step_of_turn moved with ⟨now, sink, rfl, ran, step⟩ | step
      · exact kept.ownStep accounted (ih admitsEarlier ran) admits ran step running
      · have background := background_of_backgroundStep step
        have silent : told? ⟨middle, turn⟩ = none := by cases step <;> rfl
        rw [told_cons_none silent]
        exact (ih admitsEarlier (background.running ▸ running)).background background accounted
          (accounted.backgroundStep step)

end Contract

end Pipeline

end WalletTopUp
