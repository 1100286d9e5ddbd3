import WalletTopUp.Proofs.Pipeline.Events

/-!
# Where the limits come from

The limits that a pipeline knows are the answer to a request of its own (`Pipeline.LimitsLearned`).
The invariant behind it follows loading the limits from its beginning to the moment they are
published (`Pipeline.Limited`).
-/

namespace WalletTopUp

namespace Pipeline

variable {settings : PipelineSettings} {pipeline next : Pipeline} {past : History}
  {moment : Moment Pipeline Turn}

/-- Loading the limits of a currency begins, unless they are known or on their way. -/
def BeginsLimits (currency : String) (moment : Moment Pipeline Turn) : Prop :=
  Does .loadLimits moment ∧ moment.before.state.entry.currency.code = currency

/-- The limits are the answer to a request for those of the currency that was in use. -/
def LimitsLearned (past : History) (limits : TopUpLimits) : Prop :=
  ∃ currency, LearnedSince (fun _ => True) (BeginsLimits currency) .limits past (.limits currency)
    (.ok limits)

/-- Limits are being loaded. -/
def LoadsLimits (past : History) (exchange : Exchange (Option TopUpLimits)) : Prop :=
  ∃ currency, Since (fun _ => True) (fun moment _ => BeginsLimits currency moment) past
    ∧ exchange.Follows (AskedSince (fun _ => True) (BeginsLimits currency) .limits past)
        (LearnedSince (fun _ => True) (BeginsLimits currency) .limits past) (limitsOf currency)

/-- Limits stay learned. -/
theorem LimitsLearned.later {limits : TopUpLimits} (learned : LimitsLearned past limits) :
    LimitsLearned (moment :: past) limits := by
  obtain ⟨currency, learned⟩ := learned
  exact ⟨currency, .later trivial learned⟩

/-- What a load of limits has learned, it has at every later moment. -/
theorem LoadsLimits.later {exchange : Exchange (Option TopUpLimits)}
    (loads : LoadsLimits past exchange) : LoadsLimits (moment :: past) exchange := by
  obtain ⟨currency, since, follows⟩ := loads
  exact ⟨currency, .later trivial since, follows_later follows trivial⟩

/-! ## The invariant -/

/-- Where everything comes from that is or may become the limits. -/
structure Limited (past : History) (pipeline : Pipeline) : Prop where
  loading : ∀ exchange, pipeline.limits = .loading exchange → LoadsLimits past exchange
  reported : ∀ limits, .limitsLoaded (some limits) ∈ pipeline.completions →
    LimitsLearned past limits
  publishing : ∀ limits, .publish (.limitsLoaded limits) ∈ pipeline.duties →
    LimitsLearned past limits
  known : ∀ limits, pipeline.state.limits = some limits → LimitsLearned past limits

/-- Before the first turn there are no limits. -/
theorem limited_start : Limited [] (start settings) where
  loading _ same := by cases same
  reported _ member := by cases member
  publishing _ member := by cases member
  known _ same := by cases same

/-- Limits that were learned are so at every later moment. -/
theorem Limited.later (limited : Limited past pipeline) : Limited (moment :: past) pipeline where
  loading exchange same := (limited.loading exchange same).later
  reported limits member := (limited.reported limits member).later
  publishing limits member := (limited.publishing limits member).later
  known limits same := (limited.known limits same).later

/-- Doing a duty. -/
theorem Limited.performs {duty : Duty} {rest : List Duty} {now : Instant} {sink : Sink TaskName}
    (limited : Limited past pipeline)
    (head : pipeline.duties = duty :: rest) :
    Limited (⟨pipeline, .own now sink⟩ :: past)
      (({ pipeline with duties := rest } : Pipeline).perform settings now duty) := by
  have done := performed settings now pipeline duty rest
  have later : Limited (⟨pipeline, .own now sink⟩ :: past) pipeline := limited.later
  refine ⟨fun exchange same => ?_, fun limits member => ?_, fun limits member => ?_,
    fun limits same => ?_⟩
  · by_cases loads : duty = .loadLimits
    · subst loads
      simp only [perform, startLimits] at same
      split at same
      · cases same
        have begins : BeginsLimits pipeline.state.entry.currency.code ⟨pipeline, .own now sink⟩ :=
          ⟨⟨⟨now, sink, rfl⟩, rest, head⟩, rfl⟩
        exact ⟨_, .now begins, .ready _⟩
      · exact later.loading exchange same
    · exact later.loading exchange ((done.limits loads).symm.trans same)
  · exact later.reported limits (done.completions ▸ member)
  · rw [done.duties] at member
    rcases List.mem_append.mp member with new | left
    · rcases publish_mem_added new with ⟨_, _, same⟩ | ⟨_, same⟩ | same <;> cases same
    · exact later.publishing limits (head ▸ List.mem_cons_of_mem _ left)
  · rw [done.state] at same
    cases duty with
    | publish action =>
        rcases ScreenState.limits_next same with rfl | earlier
        · exact later.publishing limits (head ▸ List.mem_cons_self)
        · exact later.known limits earlier
    | _ => exact later.known limits same

/-- A step of the pipeline itself has no limits that were not learned. -/
theorem Limited.ownStep {now : Instant} {sink : Sink TaskName}
    (limited : Limited past pipeline)
    (step : OwnStep settings now sink pipeline next) :
    Limited (⟨pipeline, .own now sink⟩ :: past) next := by
  have later : Limited (⟨pipeline, .own now sink⟩ :: past) pipeline := limited.later
  obtain ⟨loading, reported, publishing, known⟩ := later
  cases step with
  | stops _ _ => exact ⟨fun _ same => (by cases same), reported, publishing, known⟩
  | @input input _ _ _ =>
      refine ⟨loading, reported, fun limits member => ?_, known⟩
      rcases input_of_publish member with ⟨_, _, _, same⟩ | ⟨_, _, same⟩ | ⟨_, same⟩ | ⟨_, _, same⟩
        <;> cases same
  | deadline _ _ =>
      refine ⟨loading, reported, fun limits member => ?_, known⟩
      cases List.mem_singleton.mp member
  | @completion completion rest _ queued =>
      refine ⟨fun exchange same => ?_, fun limits member => ?_, fun limits member => ?_, known⟩
      · cases completion with
        | limitsLoaded _ => cases same
        | converted _ _ | bonusLoaded _ _ => exact loading exchange same
      · exact reported limits (queued ▸ List.mem_cons_of_mem _ member)
      · rcases publish_mem_completionDuties member with ⟨_, rfl, same⟩ | ⟨_, _, _, _, same⟩
        · cases same
          exact reported limits (queued ▸ List.mem_cons_self)
        · cases same
  | waits _ _ => exact ⟨loading, reported, publishing, known⟩
  | tells head _ =>
      exact ⟨loading, reported,
        fun limits member => publishing limits (head ▸ List.mem_cons_of_mem _ member), known⟩
  | performs head _ => exact limited.performs head

/-- A step of background work has none either. -/
theorem Limited.backgroundStep {turn : Turn}
    (limited : Limited past pipeline)
    (step : BackgroundStep pipeline turn next) : Limited (⟨pipeline, turn⟩ :: past) next := by
  have later : Limited (⟨pipeline, turn⟩ :: past) pipeline := limited.later
  obtain ⟨loading, reported, publishing, known⟩ := later
  cases step with
  | askConversion _ _ | askBonus _ _ | send | close =>
      exact ⟨loading, reported, publishing, known⟩
  | askLimits current asks =>
      refine ⟨fun exchange same => ?_, reported, publishing, known⟩
      obtain rfl := LimitsLoad.loading.inj same
      obtain ⟨currency, since, follows⟩ := limited.loading _ current
      exact ⟨currency, .later trivial since,
        follows_ask follows since trivial asks (ask?_limits current)⟩
  | @endConversion work result _ _ =>
      refine ⟨loading, fun limits member => ?_, publishing, known⟩
      rcases List.mem_append.mp member with earlier | new
      · exact reported limits earlier
      · cases result with
        | error _ => cases new
        | ok _ => cases List.mem_singleton.mp new
  | endBonus _ _ =>
      refine ⟨loading, fun limits member => ?_, publishing, known⟩
      rcases List.mem_append.mp member with earlier | new
      · exact reported limits earlier
      · cases List.mem_singleton.mp new
  | endLimits current ended =>
      refine ⟨fun _ same => (by cases same), fun limits member => ?_, publishing, known⟩
      rcases List.mem_append.mp member with earlier | new
      · exact reported limits earlier
      · cases List.mem_singleton.mp new
        obtain ⟨currency, _, follows⟩ := limited.loading _ current
        have learned : LimitsLearned past limits :=
          ⟨currency, leads_limitsOf (follows.result ended)⟩
        exact learned.later
  | @hear call server =>
      refine ⟨fun exchange same => ?_, reported, publishing, known⟩
      simp only [hear] at same
      split at same
      · next heard current =>
          obtain rfl := LimitsLoad.loading.inj same
          obtain ⟨currency, since, follows⟩ := limited.loading _ current
          exact ⟨currency, .later trivial since, follows_hear follows trivial⟩
      · next unlike => exact (unlike _ same).elim

/-- **What a pipeline knows as limits is an answer to its own request.** -/
theorem limited_of_reaches
    (reached : Reaches (Pipeline.turn settings) (start settings) past pipeline) :
    Limited past pipeline := by
  induction reached with
  | start => exact limited_start
  | step _ moved ih =>
      rcases step_of_turn moved with ⟨now, sink, rfl, _, step⟩ | step
      · exact ih.ownStep step
      · exact ih.backgroundStep step

end Pipeline

end WalletTopUp
