import WalletTopUp.Proofs.Pipeline.Forecasts
import WalletTopUp.Proofs.Pipeline.SubmitControl

/-!
# Superseded results

No result that has been superseded takes effect.  A settled amount and a bonus rest on answers to
requests that nothing has superseded, and a result whose ticket has been followed by another
beginning or by a cancellation is dropped when its turn comes, whatever the order in which things
happened (`PipelineRun.no_superseded_result`).
-/

namespace WalletTopUp

namespace Pipeline

variable {settings : PipelineSettings} {pipeline next : Pipeline} {past : History}
  {moment : Moment Pipeline Turn} {ticket : Ticket}

/-! ## Overtaken tickets -/

/-- The latest conversion is cancelled, or another one begins. -/
def RenewsConversion (moment : Moment Pipeline Turn) : Prop :=
  Does .cancelConversion moment ∨ ∃ entry amount, BeginsConversion entry amount moment

/-- A conversion begins and gets this ticket. -/
def IssuesConversion (ticket : Ticket) (moment : Moment Pipeline Turn) : Prop :=
  (∃ entry amount, BeginsConversion entry amount moment)
    ∧ moment.before.conversions.begin.2 = ticket

/-- After the ticket was issued, its conversion was cancelled or another one began. -/
def OvertakenConversion (ticket : Ticket) (past : History) : Prop :=
  Overtaken (IssuesConversion ticket) RenewsConversion past

/-- The latest forecast is cancelled, or another one begins. -/
def RenewsForecast (moment : Moment Pipeline Turn) : Prop :=
  Does .cancelBonus moment ∨ ∃ currency fiat, BeginsForecast currency fiat moment

/-- A forecast begins and gets this ticket. -/
def IssuesForecast (ticket : Ticket) (moment : Moment Pipeline Turn) : Prop :=
  (∃ currency fiat, BeginsForecast currency fiat moment)
    ∧ moment.before.bonuses.begin.2 = ticket

/-- After the ticket was issued to a forecast, the forecast was cancelled or another one began. -/
def OvertakenForecast (ticket : Ticket) (past : History) : Prop :=
  Overtaken (IssuesForecast ticket) RenewsForecast past

/-- A step of the pipeline's own task that comes to a duty does this duty. -/
theorem performs_of_does {duty : Duty} {turn : Turn}
    (moved : pipeline.turn settings turn = some next)
    (does : Does duty ⟨pipeline, turn⟩)
    (silent : ∀ effect, duty ≠ .emit effect) :
    ∃ now rest, next = ({ pipeline with duties := rest } : Pipeline).perform settings now duty := by
  obtain ⟨⟨now, sink, same⟩, rest, head⟩ := does
  obtain rfl : turn = .own now sink := same
  have head : pipeline.duties = duty :: rest := head
  obtain ⟨_, step⟩ := ownStep_of_turn moved
  cases step with
  | stops free _ | input free _ => rw [free] at head; cases head
  | deadline caughtUp _ | completion caughtUp _ => rw [caughtUp.1] at head; cases head
  | waits here _ | tells here _ =>
      rw [here] at head
      exact (silent _ (List.cons.inj head).1.symm).elim
  | performs here _ =>
      rw [here] at head
      obtain ⟨rfl, rfl⟩ := List.cons.inj head
      exact ⟨now, _, rfl⟩

/-- A turn that begins a conversion gives it the ticket that is then current. -/
theorem begin_of_beginsConversion {turn : Turn} {entry : AmountEntry} {amount : Decimal}
    (moved : pipeline.turn settings turn = some next)
    (begins : BeginsConversion entry amount ⟨pipeline, turn⟩) :
    next.conversions.ticket = pipeline.conversions.begin.2 := by
  obtain ⟨does, same, source, positive⟩ := begins
  obtain ⟨now, rest, rfl⟩ := performs_of_does moved does (by simp)
  have source : pipeline.state.entry.source = .value amount := same ▸ source
  simp only [perform, source, positive, if_true]
  rfl

/-- A turn that begins a forecast gives it the ticket that is then current. -/
theorem begin_of_beginsForecast {turn : Turn} {currency : String} {fiat : Decimal}
    (moved : pipeline.turn settings turn = some next)
    (begins : BeginsForecast currency fiat ⟨pipeline, turn⟩) :
    next.bonuses.ticket = pipeline.bonuses.begin.2 := by
  obtain ⟨does, _, holds, positive⟩ := begins
  obtain ⟨now, rest, rfl⟩ := performs_of_does moved does (by simp)
  have known : pipeline.state.entry.fiat.positive? = some fiat := by
    rw [show pipeline.state.entry.fiat = .value fiat from holds]
    simp only [AmountValue.positive?, positive, if_true]
  simp only [perform, known]
  rfl

/-- A ticket is never taken back. -/
theorem sequence_le_of_turn {turn : Turn} (moved : pipeline.turn settings turn = some next) :
    pipeline.conversions.sequence ≤ next.conversions.sequence
      ∧ pipeline.bonuses.sequence ≤ next.bonuses.sequence := by
  rcases step_of_turn moved with ⟨now, sink, rfl, _, step⟩ | step
  · cases step with
    | stops _ _ => exact ⟨Nat.le_succ _, Nat.le_succ _⟩
    | input _ _ | deadline _ _ | completion _ _ | waits _ _ | tells _ _ =>
        exact ⟨Nat.le_refl _, Nat.le_refl _⟩
    | @performs duty rest head _ =>
        have done := performed settings now pipeline duty rest
        cases duty with
        | cancelConversion => exact ⟨Nat.le_succ _, Nat.le_refl _⟩
        | cancelBonus => exact ⟨Nat.le_refl _, Nat.le_succ _⟩
        | convert =>
            refine ⟨?_, ?_⟩
            · simp only [perform]
              split
              · exact Nat.le_refl _
              · exact Nat.le_refl _
              · split
                · exact Nat.le_succ _
                · exact Nat.le_refl _
            · rw [done.bonuses (by simp) (by simp)]
        | forecast =>
            refine ⟨?_, ?_⟩
            · rw [done.conversions (by simp) (by simp)]
            · simp only [perform]
              split
              · exact Nat.le_refl _
              · exact Nat.le_succ _
        | _ =>
            rw [done.conversions (by simp) (by simp), done.bonuses (by simp) (by simp)]
            exact ⟨Nat.le_refl _, Nat.le_refl _⟩
  · have background := background_of_backgroundStep step
    exact ⟨Nat.le_of_eq background.conversions.symm, Nat.le_of_eq background.bonuses.symm⟩

/-- A ticket with a number below the last one is not current. -/
theorem isCurrent_eq_false {α : Type} {latest : SwitchLatest α}
    (older : ticket.number < latest.sequence) : latest.isCurrent ticket = false :=
  beq_eq_false_iff_ne.mpr (Nat.ne_of_lt older)

/-- An overtaken ticket is not the latest one. -/
theorem stale_of_overtakenConversion
    (reached : Reaches (Pipeline.turn settings) (start settings) past pipeline)
    (overtaken : OvertakenConversion ticket past) :
    pipeline.conversions.isCurrent ticket = false := by
  have grows : ∀ (earlier : Pipeline) turn later, earlier.turn settings turn = some later →
      earlier.conversions.sequence ≤ later.conversions.sequence :=
    fun _ _ _ moved => (sequence_le_of_turn moved).1
  have issued : ∀ (earlier : Pipeline) turn later, earlier.turn settings turn = some later →
      IssuesConversion ticket ⟨earlier, turn⟩ → ticket.number ≤ later.conversions.sequence := by
    rintro earlier turn later moved ⟨⟨entry, amount, begins⟩, rfl⟩
    exact Nat.le_of_eq
      (congrArg Ticket.number (begin_of_beginsConversion moved begins)).symm
  have renewed : ∀ (earlier : Pipeline) turn later, earlier.turn settings turn = some later →
      RenewsConversion ⟨earlier, turn⟩ →
      earlier.conversions.sequence < later.conversions.sequence := by
    rintro earlier turn later moved (cancels | ⟨entry, amount, begins⟩)
    · obtain ⟨now, rest, rfl⟩ := performs_of_does moved cancels (by simp)
      exact Nat.lt_succ_self _
    · have begun : later.conversions.sequence = earlier.conversions.sequence + 1 :=
        congrArg Ticket.number (begin_of_beginsConversion moved begins)
      omega
  exact isCurrent_eq_false (reached.lt_of_overtaken overtaken grows issued renewed)

/-- The ticket of an overtaken forecast is stale. -/
theorem stale_of_overtakenForecast
    (reached : Reaches (Pipeline.turn settings) (start settings) past pipeline)
    (overtaken : OvertakenForecast ticket past) :
    pipeline.bonuses.isCurrent ticket = false := by
  have grows : ∀ (earlier : Pipeline) turn later, earlier.turn settings turn = some later →
      earlier.bonuses.sequence ≤ later.bonuses.sequence :=
    fun _ _ _ moved => (sequence_le_of_turn moved).2
  have issued : ∀ (earlier : Pipeline) turn later, earlier.turn settings turn = some later →
      IssuesForecast ticket ⟨earlier, turn⟩ → ticket.number ≤ later.bonuses.sequence := by
    rintro earlier turn later moved ⟨⟨currency, fiat, begins⟩, rfl⟩
    exact Nat.le_of_eq (congrArg Ticket.number (begin_of_beginsForecast moved begins)).symm
  have renewed : ∀ (earlier : Pipeline) turn later, earlier.turn settings turn = some later →
      RenewsForecast ⟨earlier, turn⟩ → earlier.bonuses.sequence < later.bonuses.sequence := by
    rintro earlier turn later moved (cancels | ⟨currency, fiat, begins⟩)
    · obtain ⟨now, rest, rfl⟩ := performs_of_does moved cancels (by simp)
      exact Nat.lt_succ_self _
    · have begun : later.bonuses.sequence = earlier.bonuses.sequence + 1 :=
        congrArg Ticket.number (begin_of_beginsForecast moved begins)
      omega
  exact isCurrent_eq_false (reached.lt_of_overtaken overtaken grows issued renewed)

/-- A step that takes a completion out of the queue takes it over. -/
theorem taking_of_ownStep {now : Instant} {sink : Sink TaskName} {completion : Completion}
    {rest : List Completion}
    (step : OwnStep settings now sink pipeline next)
    (queued : pipeline.completions = completion :: rest)
    (took : next.completions = rest) :
    pipeline.duties = [] ∧ next = pipeline.taking completion rest := by
  have unlike : pipeline.completions ≠ rest := by
    rw [queued]
    exact List.cons_ne_self _ _
  cases step with
  | stops _ _ | input _ _ | deadline _ _ | waits _ _ | tells _ _ => exact (unlike took).elim
  | completion caughtUp here =>
      rw [here] at queued
      obtain ⟨rfl, rfl⟩ := List.cons.inj queued
      exact ⟨caughtUp.1, rfl⟩
  | @performs duty left _ _ =>
      rw [(performed settings now pipeline duty left).completions] at took
      exact (unlike took).elim

/-- The result of a conversion with a stale ticket is taken and dropped: nothing but the queue of
results changes. -/
theorem taking_stale_conversion {derived : AmountValue} {rest : List Completion}
    (free : pipeline.duties = [])
    (stale : pipeline.conversions.isCurrent ticket = false) :
    pipeline.taking (.converted ticket derived) rest = { pipeline with completions := rest } := by
  simp only [taking, completionDuties, stale, Bool.false_eq_true, if_false, free]

/-- The result of a forecast with a stale ticket is taken and dropped in the same way. -/
theorem taking_stale_bonus {bonus : Option BonusForecast} {rest : List Completion}
    (free : pipeline.duties = [])
    (stale : pipeline.bonuses.isCurrent ticket = false) :
    pipeline.taking (.bonusLoaded ticket bonus) rest = { pipeline with completions := rest } := by
  simp only [taking, completionDuties, stale, Bool.false_eq_true, if_false, free]

end Pipeline

namespace PipelineRun

variable {settings : PipelineSettings} {past : List (Moment PipelineRun Move)}
  {run next : PipelineRun}

/-- A step with nothing left to do does not touch the way to the presentation layer. -/
theorem ownStep_of_move (moved : run.move settings (.step .pipeline) = some next) :
    Pipeline.OwnStep settings run.now run.sink run.pipeline next.pipeline
      ∧ (run.pipeline.duties = [] → next = { run with pipeline := next.pipeline }) := by
  obtain ⟨⟨pipeline, sink⟩, stepped, rfl⟩ := Option.map_eq_some_iff.mp moved
  refine ⟨(Pipeline.ownStep_of_step stepped).2, fun free => ?_⟩
  simp only [Pipeline.step, free] at stepped
  split at stepped
  · cases stepped
  · obtain ⟨_, _, same⟩ := Option.map_eq_some_iff.mp stepped
    cases same
    rfl

/-- **No superseded result ever takes effect.**  In every run, in whatever order inputs come, time
passes, calls are answered and tasks take their steps:

* A settled amount was derived from the amount on one of the sides.  Neither side has changed since
  it was settled, and the derived side is unknown for an amount that is unknown or negative, zero
  for zero, and otherwise the rounded answer of the broker to a request for exactly this amount in
  this direction, begun after the last accepted edit and the last switch before settling.
* A bonus is the answer to a forecast for the fiat amount that the state holds.
* A result whose ticket has been overtaken is dropped when it is taken: nothing else changes, and
  nothing is told to the presentation layer. -/
theorem no_superseded_result
    (reached : Reaches (PipelineRun.move settings) (PipelineRun.start settings) past run) :
    (run.pipeline.state.settled = true →
        Pipeline.SettledSince settings (turns past) run.pipeline.state.entry)
      ∧ (∀ bonus, run.pipeline.state.bonus = some bonus →
          Pipeline.Rewards settings (turns past) run.pipeline.state.entry.fiat bonus)
      ∧ (∀ ticket derived rest next, Pipeline.OvertakenConversion ticket (turns past) →
          run.pipeline.completions = .converted ticket derived :: rest →
          run.move settings (.step .pipeline) = some next → next.pipeline.completions = rest →
          next = { run with pipeline := { run.pipeline with completions := rest } })
      ∧ (∀ ticket bonus rest next, Pipeline.OvertakenForecast ticket (turns past) →
          run.pipeline.completions = .bonusLoaded ticket bonus :: rest →
          run.move settings (.step .pipeline) = some next → next.pipeline.completions = rest →
          next = { run with pipeline := { run.pipeline with completions := rest } }) := by
  have reachedTurns := reaches_turns reached
  refine ⟨(Pipeline.converted_of_reaches reachedTurns).settled,
    (Pipeline.rewarded_of_reaches reachedTurns).held, ?_, ?_⟩
  · intro ticket derived rest next overtaken queued moved took
    obtain ⟨step, frame⟩ := ownStep_of_move moved
    obtain ⟨free, taken⟩ := Pipeline.taking_of_ownStep step queued took
    have stale := Pipeline.stale_of_overtakenConversion reachedTurns overtaken
    rw [frame free, taken, Pipeline.taking_stale_conversion free stale]
  · intro ticket bonus rest next overtaken queued moved took
    obtain ⟨step, frame⟩ := ownStep_of_move moved
    obtain ⟨free, taken⟩ := Pipeline.taking_of_ownStep step queued took
    have stale := Pipeline.stale_of_overtakenForecast reachedTurns overtaken
    rw [frame free, taken, Pipeline.taking_stale_bonus free stale]

/-! ## Runs in which results take effect and in which one is superseded -/

/-- The run after more moves. -/
def Sample.after (run : PipelineRun) (list : List Move) : PipelineRun :=
  (run.moves {} list).getD run

/-- Ten euros have been typed, and their conversion is about to begin. -/
def Sample.typed : PipelineRun :=
  after (start {}) ([Move.send (.edit "10")] ++ own 6 ++ [Move.advance 700] ++ own 1)

/-- The conversion of the ten euros has begun. -/
def Sample.begun : PipelineRun := after typed (own 1)

/-- The answer is waiting to be taken, but twenty euros have been typed before that. -/
def Sample.retyped : PipelineRun :=
  after begun
    ([Move.step .conversion, .answer 0 server, .step .conversion, .send (.edit "20")] ++ own 1)

/-- The conversion of the ten euros is cancelled. -/
def Sample.cancelled : PipelineRun := after retyped (own 1)

/-- Nothing is left to do but to take the answer for the ten euros. -/
def Sample.superseded : PipelineRun := after cancelled (own 4)

/-- The turns of two stretches of a run are those of the one after those of the other. -/
theorem turns_append (later past : List (Moment PipelineRun Move)) :
    turns (later ++ past) = turns later ++ turns past := List.filterMap_append

theorem no_superseded_result_of_sample :
    (∃ past, Reaches (PipelineRun.move {}) (start {}) past Sample.run
      ∧ Sample.run.pipeline.state.settled = true
      ∧ Pipeline.SettledSince {} (turns past) Sample.run.pipeline.state.entry
      ∧ ∃ bonus, Sample.run.pipeline.state.bonus = some bonus
        ∧ Pipeline.Rewards {} (turns past) Sample.run.pipeline.state.entry.fiat bonus)
      ∧ ∃ past ticket derived next,
        Reaches (PipelineRun.move {}) (start {}) past Sample.superseded
        ∧ Pipeline.OvertakenConversion ticket (turns past)
        ∧ Sample.superseded.pipeline.completions = [.converted ticket derived]
        ∧ Sample.superseded.move {} (.step .pipeline) = some next
        ∧ next = { Sample.superseded with
            pipeline := { Sample.superseded.pipeline with completions := [] } } := by
  refine ⟨?_, ?_⟩
  · obtain ⟨past, reached, _⟩ := reaches_of_moves Sample.moves_run
    obtain ⟨settled, rewarded, _⟩ := no_superseded_result reached
    exact ⟨past, reached, rfl, settled rfl, _, rfl, rewarded _ rfl⟩
  · have ran : (start {}).moves {}
        ([.send (.edit "10")] ++ Sample.own 6 ++ [.advance 700] ++ Sample.own 1)
          = some Sample.typed := by rfl
    have ranThen : Sample.begun.moves {}
        ([.step .conversion, .answer 0 Sample.server, .step .conversion, .send (.edit "20")]
          ++ Sample.own 1) = some Sample.retyped := by rfl
    have ranLast : Sample.cancelled.moves {} (Sample.own 4) = some Sample.superseded := by rfl
    have begins : Sample.typed.move {} (.step .pipeline) = some Sample.begun := by rfl
    have cancels : Sample.retyped.move {} (.step .pipeline) = some Sample.cancelled := by rfl
    obtain ⟨first, reachedFirst, _⟩ := reaches_of_moves ran
    obtain ⟨middle, reachedMiddle, _⟩ := reaches_of_moves ranThen
    obtain ⟨last, reachedLast, _⟩ := reaches_of_moves ranLast
    have reachedCancelled := ((reachedFirst.step begins).trans reachedMiddle).step cancels
    have reached := reachedCancelled.trans reachedLast
    have overtaken : Pipeline.OvertakenConversion Sample.typed.pipeline.conversions.begin.2
        (turns (last ++ ⟨Sample.retyped, .step .pipeline⟩
          :: (middle ++ ⟨Sample.typed, .step .pipeline⟩ :: first))) := by
      rw [turns_append]
      refine .append (fun _ _ => trivial) (.now ⟨?_, ?_⟩)
      · exact .inl ⟨⟨_, _, rfl⟩, _, rfl⟩
      · change Since _ _ (turns (middle ++ ⟨Sample.typed, .step .pipeline⟩ :: first))
        rw [turns_append]
        exact .append (fun _ _ => trivial)
          (.now ⟨⟨_, _, ⟨⟨_, _, rfl⟩, _, rfl⟩, rfl, rfl, rfl⟩, rfl⟩)
    have moved : Sample.superseded.move {} (.step .pipeline)
        = some (Sample.after Sample.superseded (Sample.own 1)) := by rfl
    exact ⟨_, _, _, _, reached, overtaken, rfl, moved,
      (no_superseded_result reached).2.2.1 _ _ _ _ overtaken rfl moved rfl⟩

end PipelineRun

end WalletTopUp
