import WalletTopUp.Proofs.Pipeline.Conversions

/-!
# Where the bonus comes from

A bonus that the state holds is the answer to a forecast that was begun for the fiat amount which
the state holds, and the state has held that amount ever since (`Pipeline.Rewards`).  The invariant
behind it follows a forecast from its beginning through its calls and its queued result to the
moment it is published (`Pipeline.Rewarded`).
-/

namespace WalletTopUp

namespace Pipeline

variable {settings : PipelineSettings} {pipeline next : Pipeline} {past : History}
  {moment : Moment Pipeline Turn}

/-! ## The story of a forecast -/

/-- The forecast for a fiat amount begins. -/
def BeginsForecast (currency : String) (fiat : Decimal) (moment : Moment Pipeline Turn) : Prop :=
  Does .forecast moment ∧ moment.before.state.entry.currency.code = currency
    ∧ moment.before.state.entry.fiat = .value fiat ∧ fiat.isPositive = true

/-- The state holds this fiat amount. -/
def HoldsFiat (fiat : Decimal) (moment : Moment Pipeline Turn) : Prop :=
  moment.before.state.entry.fiat = .value fiat

/-- A bonus is the answer to a forecast for a fiat amount that the state has held since the forecast
began: first the broker was asked for the tokens that the amount buys, then the bonus programme for
the bonus of these tokens. -/
def Rewards (settings : PipelineSettings) (past : History) (held : AmountValue)
    (bonus : BonusForecast) : Prop :=
  ∃ currency fiat quote, held = .value fiat ∧ fiat.isPositive = true
    ∧ LearnedSince (HoldsFiat fiat) (BeginsForecast currency fiat) .bonus past
        (.quote currency fiat.toText (some tokenCode)) (.ok quote)
    ∧ LearnedSince (HoldsFiat fiat) (BeginsForecast currency fiat) .bonus past
        (.forecast settings.package (quote.value.floorToScale settings.bonusScale)) (.ok bonus)

/-- A forecast for the fiat amount is under way. -/
def Forecasts (settings : PipelineSettings) (past : History) (held : AmountValue)
    (exchange : Exchange (Option BonusForecast)) : Prop :=
  ∃ currency fiat, held = .value fiat ∧ fiat.isPositive = true
    ∧ Since (HoldsFiat fiat) (fun moment _ => BeginsForecast currency fiat moment) past
    ∧ exchange.Follows (AskedSince (HoldsFiat fiat) (BeginsForecast currency fiat) .bonus past)
        (LearnedSince (HoldsFiat fiat) (BeginsForecast currency fiat) .bonus past)
        (bonusOf settings currency fiat)

/-- A bonus stays the one of an amount as long as the state holds the amount. -/
theorem Rewards.later {held : AmountValue} {bonus : BonusForecast}
    (holds : moment.before.state.entry.fiat = held)
    (rewards : Rewards settings past held bonus) :
    Rewards settings (moment :: past) held bonus := by
  obtain ⟨currency, fiat, quote, same, positive, heardQuote, heardBonus⟩ := rewards
  have kept : HoldsFiat fiat moment := holds.trans same
  exact ⟨currency, fiat, quote, same, positive, .later kept heardQuote, .later kept heardBonus⟩

/-- A forecast stays the one of an amount as long as the state holds the amount. -/
theorem Forecasts.later {held : AmountValue} {exchange : Exchange (Option BonusForecast)}
    (holds : moment.before.state.entry.fiat = held)
    (forecasts : Forecasts settings past held exchange) :
    Forecasts settings (moment :: past) held exchange := by
  obtain ⟨currency, fiat, same, positive, since, follows⟩ := forecasts
  have kept : HoldsFiat fiat moment := holds.trans same
  exact ⟨currency, fiat, same, positive, .later kept since, follows_later follows kept⟩

/-- A forecast that ends with a bonus has learned it. -/
theorem Forecasts.rewards {held : AmountValue} {exchange : Exchange (Option BonusForecast)}
    {bonus : BonusForecast}
    (forecasts : Forecasts settings past held exchange)
    (ended : exchange.result? = some (some bonus)) :
    Rewards settings past held bonus := by
  obtain ⟨currency, fiat, same, positive, _, follows⟩ := forecasts
  obtain ⟨quote, heardQuote, heardBonus⟩ := leads_bonusOf (follows.result ended)
  exact ⟨currency, fiat, quote, same, positive, heardQuote, heardBonus⟩

/-! ## A bonus on its way into the state -/

/-- A bonus is published before anything else is taken. -/
def PublishesBonus (pipeline : Pipeline) : Prop :=
  ∀ bonus, .publish (.bonusUpdated (some bonus)) ∈ pipeline.duties →
    pipeline.duties = [.emit (bonusEffect (some bonus)), .publish (.bonusUpdated (some bonus)),
        .announceSubmit]
      ∨ pipeline.duties = [.publish (.bonusUpdated (some bonus)), .announceSubmit]

/-- A bonus that is going to be published is told right before. -/
theorem PublishesBonus.head {bonus : BonusForecast} {duty : Duty} {rest : List Duty}
    (publishes : pipeline.PublishesBonus)
    (head : pipeline.duties = duty :: rest)
    (member : .publish (.bonusUpdated (some bonus)) ∈ rest) :
    duty = .emit (bonusEffect (some bonus))
      ∧ rest = [.publish (.bonusUpdated (some bonus)), .announceSubmit] := by
  rcases publishes bonus (head ▸ List.mem_cons_of_mem _ member) with both | last
  · rw [head] at both
    exact List.cons.inj both
  · rw [head] at last
    obtain ⟨_, rfl⟩ := List.cons.inj last
    cases List.mem_singleton.mp member

/-- Every step of the pipeline's own task keeps a bonus first in the line. -/
theorem PublishesBonus.ownStep {now : Instant} {sink : Sink TaskName}
    (publishes : pipeline.PublishesBonus)
    (step : OwnStep settings now sink pipeline next) : next.PublishesBonus := by
  intro bonus member
  cases step with
  | stops _ _ | waits _ _ => exact publishes bonus member
  | @input input _ _ _ =>
      rcases input_of_publish member with ⟨_, _, _, same⟩ | ⟨_, _, same⟩ | ⟨_, same⟩ | ⟨_, _, same⟩
        <;> cases same
  | deadline _ _ => cases List.mem_singleton.mp member
  | completion _ _ =>
      rcases publish_mem_completionDuties member with ⟨_, _, same⟩ | ⟨ticket, _, rfl, latest, same⟩
      · cases same
      · cases same
        refine .inl ?_
        simp only [taking, completionDuties, latest, if_true]
  | tells head _ => exact .inr (publishes.head head member).2
  | @performs duty rest head silent =>
      have done := performed settings now pipeline duty rest
      rw [done.duties] at member
      rcases List.mem_append.mp member with new | left
      · rcases publish_mem_added new with ⟨_, _, same⟩ | ⟨_, same⟩ | same <;> cases same
      · exact (silent _ (publishes.head head left).1).elim

/-- In every run a bonus is published before anything else is taken. -/
theorem publishesBonus_of_reaches
    (reached : Reaches (Pipeline.turn settings) (start settings) past pipeline) :
    pipeline.PublishesBonus := by
  induction reached with
  | start =>
      intro bonus member
      cases member
  | step _ moved ih =>
      rcases step_of_turn moved with ⟨now, sink, rfl, _, step⟩ | step
      · exact ih.ownStep step
      · intro bonus member
        rw [(background_of_backgroundStep step).duties] at member ⊢
        exact ih bonus member

/-! ## The invariant -/

/-- Where everything comes from that is or may become the bonus. -/
structure Rewarded (settings : PipelineSettings) (past : History) (pipeline : Pipeline) :
    Prop where
  underway : ∀ work, pipeline.bonuses.current = some work →
    Forecasts settings past pipeline.state.entry.fiat work.exchange
  reported : ∀ bonus,
    .bonusLoaded pipeline.bonuses.ticket (some bonus) ∈ pipeline.completions →
      Rewards settings past pipeline.state.entry.fiat bonus
  publishing : ∀ bonus, .publish (.bonusUpdated (some bonus)) ∈ pipeline.duties →
    Rewards settings past pipeline.state.entry.fiat bonus
  held : ∀ bonus, pipeline.state.bonus = some bonus →
    Rewards settings past pipeline.state.entry.fiat bonus

/-- At the start there is no bonus. -/
theorem rewarded_start : Rewarded settings [] (start settings) where
  underway _ same := by cases same
  reported _ member := by cases member
  publishing _ member := by cases member
  held _ same := by cases same

/-- A step that leaves the fiat amount as it is and starts no forecast. -/
theorem Rewarded.keep {turn : Turn}
    (rewarded : Rewarded settings past pipeline)
    (fiat : next.state.entry.fiat = pipeline.state.entry.fiat)
    (underway : ∀ work, next.bonuses.current = some work → pipeline.bonuses.current = some work)
    (reported : ∀ bonus, .bonusLoaded next.bonuses.ticket (some bonus) ∈ next.completions →
      .bonusLoaded pipeline.bonuses.ticket (some bonus) ∈ pipeline.completions)
    (publishing : ∀ bonus, .publish (.bonusUpdated (some bonus)) ∈ next.duties →
      Rewards settings past pipeline.state.entry.fiat bonus)
    (held : ∀ bonus, next.state.bonus = some bonus →
      Rewards settings past pipeline.state.entry.fiat bonus) :
    Rewarded settings (⟨pipeline, turn⟩ :: past) next where
  underway work current := by
    rw [fiat]
    exact (rewarded.underway work (underway work current)).later rfl
  reported bonus member := by
    rw [fiat]
    exact (rewarded.reported bonus (reported bonus member)).later rfl
  publishing bonus member := by
    rw [fiat]
    exact (publishing bonus member).later rfl
  held bonus same := by
    rw [fiat]
    exact (held bonus same).later rfl

/-- Once cancelled, no report of a forecast carries the ticket that is wanted. -/
theorem Accounted.not_reported_cancelBonus (accounted : pipeline.Accounted)
    (bonus : Option BonusForecast) :
    .bonusLoaded pipeline.bonuses.cancel.ticket bonus ∉ pipeline.completions := fun member =>
  accounted.bonuses.unreported (List.mem_filterMap.mpr ⟨_, member, rfl⟩)

/-- Without a forecast under way there is nothing to say about one. -/
theorem of_not_forecasting (accounted : pipeline.Accounted)
    (notForecasting : ¬ pipeline.Forecasting) :
    pipeline.bonuses.current = none
      ∧ ∀ bonus, .bonusLoaded pipeline.bonuses.ticket bonus ∉ pipeline.completions := by
  constructor
  · by_contra busy
    obtain ⟨work, current⟩ := Option.ne_none_iff_exists'.mp busy
    exact notForecasting (forecasting_iff.mpr
      (.inl ⟨work, current, accounted.bonuses.current work current⟩))
  · intro bonus member
    exact notForecasting (forecasting_iff.mpr (.inr (List.mem_filterMap.mpr ⟨_, member, rfl⟩)))

/-- Background tasks keep the story of the bonus. -/
theorem Rewarded.backgroundStep {turn : Turn}
    (rewarded : Rewarded settings past pipeline)
    (step : BackgroundStep pipeline turn next) :
    Rewarded settings (⟨pipeline, turn⟩ :: past) next := by
  have kept : Rewarded settings (⟨pipeline, turn⟩ :: past) pipeline :=
    rewarded.keep rfl (fun _ => id) (fun _ => id) rewarded.publishing rewarded.held
  cases step with
  | askConversion _ _ | askLimits _ _ | send | close =>
      exact ⟨kept.underway, kept.reported, kept.publishing, kept.held⟩
  | @endConversion work result _ _ =>
      refine ⟨kept.underway, fun bonus member => ?_, kept.publishing, kept.held⟩
      rcases List.mem_append.mp member with queued | new
      · exact kept.reported bonus queued
      · cases result with
        | error _ => cases new
        | ok _ => cases List.mem_singleton.mp new
  | endLimits _ _ =>
      refine ⟨kept.underway, fun bonus member => ?_, kept.publishing, kept.held⟩
      rcases List.mem_append.mp member with queued | new
      · exact kept.reported bonus queued
      · cases List.mem_singleton.mp new
  | askBonus current asks =>
      refine ⟨fun asked same => ?_, kept.reported, kept.publishing, kept.held⟩
      obtain rfl := Option.some.inj same
      obtain ⟨currency, fiat, holds, positive, since, follows⟩ := rewarded.underway _ current
      exact ⟨currency, fiat, holds, positive, .later holds since,
        follows_ask follows since holds asks (ask?_bonus current)⟩
  | endBonus current ended =>
      refine ⟨fun _ same => ?_, fun bonus member => ?_, kept.publishing, kept.held⟩
      · cases same
      · rcases List.mem_append.mp member with queued | new
        · exact kept.reported bonus queued
        · obtain ⟨_, rfl⟩ := Completion.bonusLoaded.inj (List.mem_singleton.mp new)
          exact ((rewarded.underway _ current).rewards ended).later rfl
  | hear =>
      refine ⟨fun heard same => ?_, kept.reported, kept.publishing, kept.held⟩
      obtain ⟨work, current, rfl⟩ := Option.map_eq_some_iff.mp same
      obtain ⟨currency, fiat, holds, positive, since, follows⟩ := rewarded.underway _ current
      exact ⟨currency, fiat, holds, positive, .later holds since, follows_hear follows holds⟩

/-! ## Steps of the pipeline's own task -/

/-- An action that may change the fiat amount finds no bonus and no forecast under way. -/
theorem rewarded_of_none {turn : Turn}
    (accounted : pipeline.Accounted)
    (notForecasting : ¬ pipeline.Forecasting)
    (bonuses : next.bonuses = pipeline.bonuses)
    (completions : next.completions = pipeline.completions)
    (unpublished : ∀ bonus, .publish (.bonusUpdated (some bonus)) ∉ next.duties)
    (unrewarded : next.state.bonus = none) :
    Rewarded settings (⟨pipeline, turn⟩ :: past) next := by
  obtain ⟨idle, silent⟩ := of_not_forecasting accounted notForecasting
  refine ⟨fun work current => ?_, fun bonus member => ?_,
    fun bonus member => (unpublished bonus member).elim, fun bonus same => ?_⟩
  · rw [bonuses, idle] at current
    cases current
  · rw [bonuses, completions] at member
    exact (silent _ member).elim
  · rw [unrewarded] at same
    cases same

/-- Publishing keeps the story: an edit drops the bonus, and a forecast is taken over with its
story. -/
theorem Rewarded.publishes {action : ScreenAction} {rest : List Duty} {now : Instant}
    {sink : Sink TaskName}
    (rewarded : Rewarded settings past pipeline)
    (accounted : pipeline.Accounted)
    (publishes : pipeline.PublishesBonus)
    (head : pipeline.duties = .publish action :: rest)
    (before : Before False (.publish action) pipeline) :
    Rewarded settings (⟨pipeline, .own now sink⟩ :: past)
      { pipeline with state := pipeline.state.next action, duties := rest } := by
  have unpublished : ∀ bonus, .publish (.bonusUpdated (some bonus)) ∉ rest := fun bonus member => by
    cases (publishes.head head member).1
  have keeps : (pipeline.state.next action).entry.fiat = pipeline.state.entry.fiat →
      (∀ bonus, (pipeline.state.next action).bonus = some bonus →
        Rewards settings past pipeline.state.entry.fiat bonus) →
      Rewarded settings (⟨pipeline, .own now sink⟩ :: past)
        { pipeline with state := pipeline.state.next action, duties := rest } := fun fiat held =>
    rewarded.keep fiat (fun _ => id) (fun _ => id)
      (fun bonus member => (unpublished bonus member).elim) held
  cases action with
  | amountEdited text =>
      obtain ⟨typed, value⟩ := Option.isSome_iff_exists.mp before.1
      refine rewarded_of_none accounted before.2.2 rfl rfl unpublished ?_
      simp only [ScreenState.next, value]
  | conversionSettled derived =>
      exact rewarded_of_none accounted before.notForecasting rfl rfl unpublished before.unrewarded
  | bonusUpdated bonus =>
      refine keeps rfl fun other same => rewarded.publishing other ?_
      rw [head, show bonus = some other from same]
      exact List.mem_cons_self
  | setupLoaded _ _ | limitsLoaded _ | boundsValidated _ | methodSelected _ | currencySwitched =>
      exact keeps rfl rewarded.held

/-- Performing any duty keeps the story of the bonus. -/
theorem Rewarded.performs {duty : Duty} {rest : List Duty} {now : Instant} {sink : Sink TaskName}
    (rewarded : Rewarded settings past pipeline)
    (accounted : pipeline.Accounted)
    (publishes : pipeline.PublishesBonus)
    (head : pipeline.duties = duty :: rest)
    (silent : ∀ effect, duty ≠ .emit effect)
    (before : Before False duty pipeline) :
    Rewarded settings (⟨pipeline, .own now sink⟩ :: past)
      (({ pipeline with duties := rest } : Pipeline).perform settings now duty) := by
  have done := performed settings now pipeline duty rest
  have unpublished : ∀ bonus, .publish (.bonusUpdated (some bonus)) ∉
      (({ pipeline with duties := rest } : Pipeline).perform settings now duty).duties := by
    intro bonus member
    rw [done.duties] at member
    rcases List.mem_append.mp member with new | left
    · rcases publish_mem_added new with ⟨_, _, same⟩ | ⟨_, same⟩ | same <;> cases same
    · exact silent _ (publishes.head head left).1
  have notPublishing : ∀ bonus, .publish (.bonusUpdated (some bonus)) ∈
      (({ pipeline with duties := rest } : Pipeline).perform settings now duty).duties →
        Rewards settings past pipeline.state.entry.fiat bonus :=
    fun bonus member => (unpublished bonus member).elim
  cases duty with
  | publish action => exact rewarded.publishes accounted publishes head before
  | cancelBonus =>
      refine rewarded.keep rfl (fun work current => ?_)
        (fun bonus member => (accounted.not_reported_cancelBonus _ member).elim) notPublishing
        rewarded.held
      cases current
  | forecast =>
      cases fiat : pipeline.state.entry.fiat.positive? with
      | none =>
          simp only [perform, fiat] at notPublishing ⊢
          exact rewarded.keep rfl (fun _ => id) (fun _ => id) notPublishing rewarded.held
      | some amount =>
          have holds : pipeline.state.entry.fiat = .value amount := AmountValue.eq_of_positive? fiat
          have positive := AmountValue.isPositive_of_positive? fiat
          have begins : BeginsForecast pipeline.state.entry.currency.code amount
              ⟨pipeline, .own now sink⟩ :=
            ⟨⟨⟨now, sink, rfl⟩, rest, head⟩, rfl, holds, positive⟩
          simp only [perform, fiat] at unpublished ⊢
          refine ⟨fun work current => ?_, fun bonus member => ?_,
            fun bonus member => (unpublished bonus member).elim, fun bonus same => ?_⟩
          · obtain rfl := Option.some.inj current
            exact ⟨_, amount, holds, positive, .now begins, Exchange.Follows.ready _⟩
          · exact (accounted.not_reported_cancelBonus _ member).elim
          · exact (rewarded.held bonus same).later rfl
  | _ =>
      have bonuses := done.bonuses (by simp) (by simp)
      refine rewarded.keep (by rw [done.state]; rfl) (fun work current => ?_)
        (fun bonus member => ?_) notPublishing fun bonus same => rewarded.held bonus ?_
      · rw [bonuses] at current
        exact current
      · rw [bonuses, done.completions] at member
        exact member
      · rw [done.state] at same
        exact same

/-- Every step of the pipeline's own task keeps the story of the bonus. -/
theorem Rewarded.ownStep {now : Instant} {sink : Sink TaskName} {told : List Effect}
    (rewarded : Rewarded settings past pipeline)
    (accounted : pipeline.Accounted)
    (publishes : pipeline.PublishesBonus)
    (ready : (agreement False).Ready settings told pipeline)
    (step : OwnStep settings now sink pipeline next) :
    Rewarded settings (⟨pipeline, .own now sink⟩ :: past) next := by
  cases step with
  | stops _ _ =>
      refine rewarded.keep rfl (fun _ current => ?_)
        (fun bonus member => (accounted.not_reported_cancelBonus _ member).elim)
        rewarded.publishing rewarded.held
      cases current
  | @input input _ _ _ =>
      refine rewarded.keep rfl (fun _ => id) (fun _ => id) (fun bonus member => ?_) rewarded.held
      rcases input_of_publish member with ⟨_, _, _, same⟩ | ⟨_, _, same⟩ | ⟨_, same⟩ | ⟨_, _, same⟩
        <;> cases same
  | deadline _ _ =>
      refine rewarded.keep rfl (fun _ => id) (fun _ => id) (fun bonus member => ?_) rewarded.held
      cases List.mem_singleton.mp member
  | @completion completion rest _ queued =>
      refine rewarded.keep rfl (fun _ => id)
        (fun bonus member => queued ▸ List.mem_cons_of_mem _ member) (fun bonus member => ?_)
        rewarded.held
      rcases publish_mem_completionDuties member with ⟨_, _, same⟩ | ⟨ticket, _, rfl, latest, same⟩
      · cases same
      · cases same
        refine rewarded.reported bonus ?_
        rw [queued, ← SwitchLatest.isCurrent_iff.mp latest]
        exact List.mem_cons_self
  | waits _ _ =>
      exact rewarded.keep rfl (fun _ => id) (fun _ => id) rewarded.publishing rewarded.held
  | tells head _ =>
      exact rewarded.keep rfl (fun _ => id) (fun _ => id)
        (fun bonus member => rewarded.publishing bonus (head ▸ List.mem_cons_of_mem _ member))
        rewarded.held
  | performs head silent =>
      exact rewarded.performs accounted publishes head silent (ready.before head)

/-- **Every bonus, held or on its way, comes from where it should.** -/
theorem rewarded_of_reaches
    (reached : Reaches (Pipeline.turn settings) (start settings) past pipeline) :
    Rewarded settings past pipeline := by
  induction reached with
  | start => exact rewarded_start
  | step earlier moved ih =>
      rcases step_of_turn moved with ⟨now, sink, rfl, running, step⟩ | step
      · exact ih.ownStep (accounted_of_reaches earlier) (publishesBonus_of_reaches earlier)
          (ready_of_anyOrder earlier running) step
      · exact ih.backgroundStep step

end Pipeline

end WalletTopUp
