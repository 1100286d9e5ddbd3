import WalletTopUp.Proofs.Pipeline.Tickets

/-!
# What the background may change

The accounts of a pipeline are right after every turn (`Pipeline.Accounted.turn`).  Between two
steps of the pipeline's own task the background may move on, but it never touches the state, the
deadline or what is left to do, it starts nothing, and no forecast is lost on the way to its report
(`Pipeline.Background`).  Doing a duty preserves what the background has left unchanged
(`Pipeline.Background.perform`), so a fact about a duty list that speaks of these things only
survives everything that goes on beside it.
-/

namespace WalletTopUp

namespace Pipeline

variable {settings : PipelineSettings} {pipeline next : Pipeline}

/-! ## Accounts -/

/-- At the start nothing is under way and nothing has been reported. -/
theorem accounted_start : (start settings).Accounted where
  conversions := .start
  bonuses := .start
  limits _ := rfl

/-- What is under way does not depend on what is left to do. -/
theorem Accounted.withDuties (accounted : pipeline.Accounted) (duties : List Duty) :
    ({ pipeline with duties } : Pipeline).Accounted :=
  ⟨accounted.conversions, accounted.bonuses, accounted.limits⟩

/-- Asking for the limits leaves conversions and forecasts accounted for. -/
theorem Accounted.startLimits (accounted : pipeline.Accounted) :
    pipeline.startLimits.Accounted := by
  simp only [Pipeline.startLimits]
  split
  · next _ idle =>
      exact ⟨accounted.conversions, accounted.bonuses, fun running =>
        (accounted.limits running).trans (by rw [idle]; rfl)⟩
  · exact accounted

/-- Performing a duty leaves everything accounted for. -/
theorem Accounted.perform (accounted : pipeline.Accounted) (now : Instant) (duty : Duty) :
    (pipeline.perform settings now duty).Accounted := by
  have unchanged : ∀ duties, (pipeline.first duties).Accounted := fun _ => accounted.withDuties _
  cases duty with
  | publish _ | arm => exact ⟨accounted.conversions, accounted.bonuses, accounted.limits⟩
  | emit _ | announceSide | announceAmounts | announceSubmit | settle _ | validate =>
      exact unchanged _
  | cancelConversion => exact ⟨accounted.conversions.cancel, accounted.bonuses, accounted.limits⟩
  | cancelBonus => exact ⟨accounted.conversions, accounted.bonuses.cancel, accounted.limits⟩
  | rearm | revalidate | validateWaiting =>
      simp only [Pipeline.perform]
      split
      · first | exact accounted | exact unchanged _
      · first | exact accounted | exact unchanged _
  | convert =>
      simp only [Pipeline.perform]
      split
      · exact unchanged _
      · exact unchanged _
      · split
        · exact ⟨accounted.conversions.begin _, accounted.bonuses, accounted.limits⟩
        · exact unchanged _
  | forecast =>
      simp only [Pipeline.perform]
      split
      · exact accounted
      · exact ⟨accounted.conversions, accounted.bonuses.begin _, accounted.limits⟩
  | loadLimits => exact accounted.startLimits

/-- Taking a report leaves the other ones accounted for. -/
theorem Accounted.taking {completion : Completion} {rest : List Completion}
    (accounted : pipeline.Accounted)
    (queued : pipeline.completions = completion :: rest)
    (running : pipeline.running = true) : (pipeline.taking completion rest).Accounted := by
  have conversions := accounted.conversions
  have bonuses := accounted.bonuses
  have limits := accounted.limits running
  simp only [reportedConversions, reportedBonuses, queued, List.filterMap_cons,
    List.countP_cons] at conversions bonuses limits
  cases completion with
  | converted ticket derived => exact ⟨conversions.take, bonuses, fun _ => limits⟩
  | bonusLoaded ticket bonus => exact ⟨conversions, bonuses.take, fun _ => limits⟩
  | limitsLoaded loaded =>
      refine ⟨conversions, bonuses, fun _ => ?_⟩
      have bound : pipeline.limits.reports ≤ 1 := by
        cases pipeline.limits <;> simp [LimitsLoad.reports]
      simp only [Completion.isLimits, if_true] at limits
      have none : rest.countP Completion.isLimits = 0 := by omega
      exact none

/-- Every step of the pipeline's own task leaves everything accounted for. -/
theorem Accounted.ownStep {now : Instant} {sink : Sink TaskName}
    (accounted : pipeline.Accounted)
    (running : pipeline.running = true)
    (step : OwnStep settings now sink pipeline next) : next.Accounted := by
  cases step with
  | stops _ _ =>
      exact ⟨accounted.conversions.cancel, accounted.bonuses.cancel, fun still => by cases still⟩
  | input _ _ | deadline _ _ | tells _ _ =>
      exact ⟨accounted.conversions, accounted.bonuses, accounted.limits⟩
  | completion _ queued => exact accounted.taking queued running
  | waits _ _ => exact accounted
  | performs _ _ =>
      exact (accounted.withDuties _).perform now _

/-- Every step of a background task leaves everything accounted for. -/
theorem Accounted.backgroundStep {turn : Turn}
    (accounted : pipeline.Accounted)
    (step : BackgroundStep pipeline turn next) : next.Accounted := by
  have conversions := accounted.conversions
  have bonuses := accounted.bonuses
  have limits := accounted.limits
  cases step with
  | askConversion current _ => exact ⟨conversions.attach current _, bonuses, limits⟩
  | askBonus current _ => exact ⟨conversions, bonuses.attach current _, limits⟩
  | askLimits current _ =>
      exact ⟨conversions, bonuses, fun running => (limits running).trans (by rw [current]; rfl)⟩
  | @endConversion work result current _ =>
      cases result with
      | error _ =>
          have same : pipeline.completions ++ convertedReport work.ticket (.error ‹_›) =
            pipeline.completions := List.append_nil _
          rw [same]
          exact ⟨conversions.finish, bonuses, limits⟩
      | ok money =>
          refine ⟨?_, ?_, fun running => ?_⟩
          · have reported := conversions.report current
            simp only [reportedConversions, List.filterMap_append]
            exact reported
          · simp only [reportedBonuses, List.filterMap_append]
            exact (List.append_nil _).symm ▸ bonuses
          · simp only [List.countP_append]
            exact limits running
  | @endBonus work bonus current _ =>
      refine ⟨?_, ?_, fun running => ?_⟩
      · simp only [reportedConversions, List.filterMap_append]
        exact (List.append_nil _).symm ▸ conversions
      · have reported := bonuses.report current
        simp only [reportedBonuses, List.filterMap_append]
        exact reported
      · simp only [List.countP_append]
        exact limits running
  | endLimits current _ =>
      refine ⟨?_, ?_, fun running => ?_⟩
      · simp only [reportedConversions, List.filterMap_append]
        exact (List.append_nil _).symm ▸ conversions
      · simp only [reportedBonuses, List.filterMap_append]
        exact (List.append_nil _).symm ▸ bonuses
      · have none := limits running
        rw [current] at none
        simp only [List.countP_append, none]
        rfl
  | @hear call server =>
      refine ⟨conversions.hearWork call server, bonuses.hearWork call server, fun running => ?_⟩
      refine (limits running).trans ?_
      cases same : pipeline.limits <;> simp only [Pipeline.hear, same, LimitsLoad.reports]
  | send | close => exact ⟨conversions, bonuses, limits⟩

/-- **The accounts are right after every turn.** -/
theorem Accounted.turn {turn : Turn}
    (accounted : pipeline.Accounted)
    (moved : pipeline.turn settings turn = some next) : next.Accounted := by
  rcases step_of_turn moved with ⟨now, sink, rfl, running, step⟩ | step
  · exact accounted.ownStep running step
  · exact accounted.backgroundStep step

/-- In every run everything under way and everything reported is accounted for. -/
theorem accounted_of_reaches {past : History}
    (reached : Reaches (Pipeline.turn settings) (start settings) past pipeline) :
    pipeline.Accounted := by
  induction reached with
  | start => exact accounted_start
  | step _ moved ih => exact ih.turn moved

/-! ## What the background leaves as it is -/

/-- The second pipeline is the first one after the background has moved on. -/
structure Background (earlier later : Pipeline) : Prop where
  state : later.state = earlier.state
  debouncer : later.debouncer = earlier.debouncer
  duties : later.duties = earlier.duties
  running : later.running = earlier.running
  conversions : later.conversions.sequence = earlier.conversions.sequence
  bonuses : later.bonuses.sequence = earlier.bonuses.sequence
  /-- A conversion that fails is never heard of again. -/
  converting : later.Converting → earlier.Converting
  forecasting : later.Forecasting ↔ earlier.Forecasting
  limits : later.limits = .idle ↔ earlier.limits = .idle

variable {earlier later : Pipeline}

/-- A conversion is wanted as long as its work is under way or its report has not been taken. -/
theorem converting_iff : pipeline.Converting ↔
    (∃ work, pipeline.conversions.current = some work
      ∧ work.ticket = pipeline.conversions.ticket)
      ∨ pipeline.conversions.ticket ∈ pipeline.reportedConversions :=
  SwitchLatest.mem_outstanding

/-- A forecast is wanted as long as its work is under way or its report has not been taken. -/
theorem forecasting_iff : pipeline.Forecasting ↔
    (∃ work, pipeline.bonuses.current = some work ∧ work.ticket = pipeline.bonuses.ticket)
      ∨ pipeline.bonuses.ticket ∈ pipeline.reportedBonuses :=
  SwitchLatest.mem_outstanding

/-- What the background does does not depend on what is left to do. -/
theorem Background.withDuties (background : Background earlier later) (duties : List Duty) :
    Background { earlier with duties } { later with duties } :=
  ⟨background.state, background.debouncer, rfl, background.running, background.conversions,
    background.bonuses, background.converting, background.forecasting, background.limits⟩

/-- What the background does does not depend on the duties that come first. -/
theorem Background.first (background : Background earlier later) (duties : List Duty) :
    Background (earlier.first duties) (later.first duties) :=
  ⟨background.state, background.debouncer, congrArg (duties ++ ·) background.duties,
    background.running, background.conversions, background.bonuses, background.converting,
    background.forecasting, background.limits⟩

/-- Work that has been replaced under its ticket is outstanding as before. -/
private theorem outstanding_attach {α : Type} {latest : SwitchLatest (Ticketed α)}
    {work : Ticketed α} (current : latest.current = some work) (exchange : Exchange α)
    (reported : List Ticket) :
    (latest.attach { work with exchange }).outstanding reported = latest.outstanding reported := by
  simp only [SwitchLatest.outstanding, SwitchLatest.attach, current, Option.map_some]

private theorem outstanding_hearWork {α : Type} (latest : SwitchLatest (Ticketed α)) (call : CallId)
    (server : Server) (reported : List Ticket) :
    (hearWork call server latest).outstanding reported = latest.outstanding reported := by
  simp only [SwitchLatest.outstanding, hearWork, Option.map_map, Function.comp_def]

/-- Work that ends with a report is outstanding as before. -/
private theorem mem_outstanding_report {α : Type} {latest : SwitchLatest (Ticketed α)}
    {work : Ticketed α} (current : latest.current = some work) (reported : List Ticket)
    (ticket : Ticket) :
    ticket ∈ latest.finish.outstanding (reported ++ [work.ticket]) ↔
      ticket ∈ latest.outstanding reported := by
  simp only [SwitchLatest.outstanding, SwitchLatest.finish, current, Option.map_none,
    Option.map_some, Option.toList_none, Option.toList_some, List.nil_append, List.mem_append,
    List.mem_singleton]
  exact or_comm

/-- A step of a background task moves the background on and nothing else. -/
theorem background_of_backgroundStep {turn : Turn} (step : BackgroundStep pipeline turn next) :
    Background pipeline next := by
  cases step with
  | askConversion current _ =>
      refine ⟨rfl, rfl, rfl, rfl, rfl, rfl, fun converting => ?_, .rfl, .rfl⟩
      rw [Converting, ← outstanding_attach current]
      exact converting
  | askBonus current _ =>
      refine ⟨rfl, rfl, rfl, rfl, rfl, rfl, id, ?_, .rfl⟩
      simp only [Forecasting, outstanding_attach current]
      exact .rfl
  | askLimits current _ =>
      refine ⟨rfl, rfl, rfl, rfl, rfl, rfl, id, .rfl, ?_⟩
      simp only [current, reduceCtorEq]
  | @endConversion work result current _ =>
      refine ⟨rfl, rfl, rfl, rfl, rfl, rfl, fun converting => ?_, ?_, .rfl⟩
      · cases result with
        | error _ =>
            rcases converting_iff.mp converting with ⟨_, none, _⟩ | reported
            · cases none
            · refine converting_iff.mpr (.inr ?_)
              rw [reportedConversions, ← List.append_nil pipeline.completions]
              exact reported
        | ok money =>
            simp only [Converting, reportedConversions, List.filterMap_append] at converting
            exact (mem_outstanding_report current _ _).mp converting
      · have silent : (convertedReport work.ticket result).filterMap Completion.bonus? = [] := by
          cases result <;> rfl
        simp only [Forecasting, reportedBonuses, List.filterMap_append, silent, List.append_nil]
  | endBonus current _ =>
      refine ⟨rfl, rfl, rfl, rfl, rfl, rfl, fun converting => ?_, ?_, .rfl⟩
      · simp only [Converting, reportedConversions, List.filterMap_append] at converting
        rw [Converting, reportedConversions, ← List.append_nil (List.filterMap _ _)]
        exact converting
      · simp only [Forecasting, reportedBonuses, List.filterMap_append]
        exact mem_outstanding_report current _ _
  | endLimits current _ =>
      refine ⟨rfl, rfl, rfl, rfl, rfl, rfl, fun converting => ?_, ?_, ?_⟩
      · simp only [Converting, reportedConversions, List.filterMap_append] at converting
        rw [Converting, reportedConversions, ← List.append_nil (List.filterMap _ _)]
        exact converting
      · simp only [Forecasting, reportedBonuses, List.filterMap_append]
        exact (List.append_nil _).symm ▸ .rfl
      · simp only [current, reduceCtorEq]
  | hear =>
      refine ⟨rfl, rfl, rfl, rfl, rfl, rfl, fun converting => ?_, ?_, ?_⟩
      · rw [Converting, ← outstanding_hearWork]
        exact converting
      · simp only [Forecasting, Pipeline.hear, outstanding_hearWork]
        exact .rfl
      · cases same : pipeline.limits <;> simp only [Pipeline.hear, same, reduceCtorEq]
  | send | close => exact ⟨rfl, rfl, rfl, rfl, rfl, rfl, id, .rfl, .rfl⟩

/-! ## Starting and cancelling -/

/-- Once cancelled, no conversion is wanted: neither work nor report carries the new ticket. -/
theorem Accounted.not_converting_cancel (accounted : pipeline.Accounted) :
    ¬ ({ pipeline with conversions := pipeline.conversions.cancel } : Pipeline).Converting :=
  accounted.conversions.not_outstanding_cancel

/-- Once cancelled, no forecast is wanted: neither work nor report carries the new ticket. -/
theorem Accounted.not_forecasting_cancel (accounted : pipeline.Accounted) :
    ¬ ({ pipeline with bonuses := pipeline.bonuses.cancel } : Pipeline).Forecasting :=
  accounted.bonuses.not_outstanding_cancel

/-- A conversion that has been begun is wanted. -/
theorem converting_startConversion (amount : Decimal) :
    (pipeline.startConversion settings amount).Converting :=
  converting_iff.mpr (.inl ⟨_, rfl, rfl⟩)

/-- A forecast that has been begun is wanted. -/
theorem forecasting_startForecast (fiat : Decimal) :
    (pipeline.startForecast settings fiat).Forecasting :=
  forecasting_iff.mpr (.inl ⟨_, rfl, rfl⟩)

/-- Asking for the limits goes along with what the background does. -/
theorem Background.startLimits (background : Background earlier later) :
    Background earlier.startLimits later.startLimits := by
  cases known : earlier.state.limits with
  | some limits =>
      have knownLater : later.state.limits = some limits := background.state ▸ known
      simpa only [Pipeline.startLimits, known, knownLater] using background
  | none =>
      have knownLater : later.state.limits = none := background.state ▸ known
      by_cases idle : earlier.limits = .idle
      · have idleLater := background.limits.mpr idle
        simp only [Pipeline.startLimits, known, idle, idleLater, background.state]
        exact ⟨rfl, background.debouncer, background.duties, background.running,
          background.conversions, background.bonuses, background.converting,
          background.forecasting, .rfl⟩
      · have busyLater : later.limits ≠ .idle := fun idleLater =>
          idle (background.limits.mp idleLater)
        have same : ∀ busy : Pipeline, busy.limits ≠ .idle → busy.startLimits = busy := by
          intro busy started
          simp only [Pipeline.startLimits]
          split
          · next _ nothing => exact (started nothing).elim
          · rfl
        rw [same earlier idle, same later busyLater]
        exact background

/-- **Doing a duty preserves what the background has left as it was.** -/
theorem Background.perform (background : Background earlier later)
    (accountedEarlier : earlier.Accounted)
    (accountedLater : later.Accounted)
    (now : Instant) (duty : Duty) :
    Background (earlier.perform settings now duty) (later.perform settings now duty) := by
  have state := background.state
  cases duty with
  | publish action =>
      exact ⟨congrArg (ScreenState.next · action) state, background.debouncer, background.duties,
        background.running, background.conversions, background.bonuses, background.converting,
        background.forecasting, background.limits⟩
  | arm =>
      exact ⟨state, congrArg (Debouncer.arm · now) background.debouncer, background.duties,
        background.running, background.conversions, background.bonuses, background.converting,
        background.forecasting, background.limits⟩
  | emit _ | settle _ => exact background.first _
  | announceSide | announceAmounts | announceSubmit | validate =>
      simp only [Pipeline.perform, state]
      exact background.first _
  | cancelConversion =>
      exact ⟨state, background.debouncer, background.duties, background.running,
        congrArg (· + 1) background.conversions, background.bonuses,
        fun converting => (accountedLater.not_converting_cancel converting).elim,
        background.forecasting, background.limits⟩
  | cancelBonus =>
      exact ⟨state, background.debouncer, background.duties, background.running,
        background.conversions, congrArg (· + 1) background.bonuses, background.converting,
        iff_of_false accountedLater.not_forecasting_cancel accountedEarlier.not_forecasting_cancel,
        background.limits⟩
  | rearm | revalidate | validateWaiting =>
      simp only [Pipeline.perform, state]
      split
      · first | exact background | exact background.first _
      · first | exact background | exact background.first _
  | convert =>
      simp only [Pipeline.perform, state]
      split
      · exact background.first _
      · exact background.first _
      · split
        · exact ⟨state, background.debouncer, background.duties, background.running,
            congrArg (· + 1) background.conversions, background.bonuses,
            fun _ => converting_startConversion _, background.forecasting, background.limits⟩
        · exact background.first _
  | forecast =>
      simp only [Pipeline.perform, state]
      split
      · exact background
      · exact ⟨state, background.debouncer, background.duties, background.running,
          background.conversions, congrArg (· + 1) background.bonuses, background.converting,
          iff_of_true (forecasting_startForecast _) (forecasting_startForecast _),
          background.limits⟩
  | loadLimits => exact background.startLimits

end Pipeline

end WalletTopUp
