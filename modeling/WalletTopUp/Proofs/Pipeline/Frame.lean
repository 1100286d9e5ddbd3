import WalletTopUp.Pipeline.Basic

/-!
# What a duty does

A duty changes the state only by publishing an action (`Pipeline.published`), it may put other
duties before those that are left (`Pipeline.added`), and it touches neither the inputs nor the
reports that are queued.
-/

namespace WalletTopUp

namespace Pipeline

variable {settings : PipelineSettings} {pipeline : Pipeline}

/-- Only a duty that publishes changes the state. -/
def published (state : ScreenState) : Duty → ScreenState
  | .publish action => state.next action
  | _ => state

/-- The duties that a duty adds before those that are left. -/
def added (state : ScreenState) : Duty → List Duty
  | .emit effect => [.emit effect]
  | .announceSide => [.emit (.currencySwitched state.entry.selected)]
  | .announceAmounts => [.emit (.conversionValue state.entry)]
  | .announceSubmit => [.emit (.setSubmitEnabled (Gate.canSubmit state))]
  | .rearm => if state.settled then [] else [.cancelConversion, .arm]
  | .convert =>
    match state.entry.source with
    | .unknown => [.settle .unknown]
    | .zero => [.settle .zero]
    | .value amount => if amount.isPositive then [] else [.settle .unknown]
  | .settle derived => [.publish (.conversionSettled derived), .announceAmounts, .validate]
  | .validate => validationDuties state
  | .revalidate => if state.settled then [.cancelBonus, .validate] else []
  | .validateWaiting => if state.settled && state.bounds.isNone then [.validate] else []
  | _ => []

/-- Asking for the limits leaves the state. -/
theorem state_startLimits : pipeline.startLimits.state = pipeline.state := by
  simp only [startLimits]
  split <;> rfl

/-- Asking for the limits leaves what is left to do. -/
theorem duties_startLimits : pipeline.startLimits.duties = pipeline.duties := by
  simp only [startLimits]
  split <;> rfl

/-- Performing a duty changes the state by publishing only. -/
theorem state_perform (now : Instant) (duty : Duty) :
    (pipeline.perform settings now duty).state = published pipeline.state duty := by
  cases duty with
  | rearm | revalidate | validateWaiting =>
      simp only [perform]
      split <;> rfl
  | forecast =>
      simp only [perform]
      split <;> rfl
  | convert =>
      simp only [perform]
      split
      · rfl
      · rfl
      · split <;> rfl
  | loadLimits => exact state_startLimits
  | _ => rfl

/-- Performing a duty puts what it adds before what is left. -/
theorem duties_perform (now : Instant) (duty : Duty) :
    (pipeline.perform settings now duty).duties = added pipeline.state duty ++ pipeline.duties := by
  cases duty with
  | rearm | revalidate | validateWaiting =>
      simp only [perform, added]
      split <;> rfl
  | forecast =>
      simp only [perform]
      split <;> rfl
  | convert =>
      cases source : pipeline.state.entry.source with
      | unknown | zero =>
          simp only [perform, added, source]
          rfl
      | value amount =>
          simp only [perform, added, source]
          split <;> rfl
  | loadLimits => exact duties_startLimits
  | _ => rfl

/-- What a duty never touches. -/
theorem perform_frame (now : Instant) (duty : Duty) :
    (pipeline.perform settings now duty).inputs = pipeline.inputs
      ∧ (pipeline.perform settings now duty).completions = pipeline.completions
      ∧ (pipeline.perform settings now duty).running = pipeline.running
      ∧ (pipeline.perform settings now duty).inputsOpen = pipeline.inputsOpen := by
  cases duty with
  | rearm | revalidate | validateWaiting | forecast | loadLimits =>
      simp only [perform, startLimits]
      split <;> exact ⟨rfl, rfl, rfl, rfl⟩
  | convert =>
      cases source : pipeline.state.entry.source with
      | unknown | zero =>
          simp only [perform, source]
          exact ⟨rfl, rfl, rfl, rfl⟩
      | value amount =>
          simp only [perform, source]
          split <;> exact ⟨rfl, rfl, rfl, rfl⟩
  | _ => exact ⟨rfl, rfl, rfl, rfl⟩

/-- Only cancelling and beginning a conversion touch the conversions. -/
theorem conversions_perform (now : Instant) {duty : Duty}
    (cancels : duty ≠ .cancelConversion)
    (begins : duty ≠ .convert) :
    (pipeline.perform settings now duty).conversions = pipeline.conversions := by
  cases duty with
  | cancelConversion => exact (cancels rfl).elim
  | convert => exact (begins rfl).elim
  | rearm | revalidate | validateWaiting | forecast | loadLimits =>
      simp only [perform, startLimits]
      split <;> rfl
  | _ => rfl

/-- Only cancelling and beginning a forecast touch the forecasts. -/
theorem bonuses_perform (now : Instant) {duty : Duty}
    (cancels : duty ≠ .cancelBonus)
    (begins : duty ≠ .forecast) :
    (pipeline.perform settings now duty).bonuses = pipeline.bonuses := by
  cases duty with
  | cancelBonus => exact (cancels rfl).elim
  | forecast => exact (begins rfl).elim
  | rearm | revalidate | validateWaiting | loadLimits =>
      simp only [perform, startLimits]
      split <;> rfl
  | convert =>
      cases source : pipeline.state.entry.source with
      | unknown | zero =>
          simp only [perform, source]
          rfl
      | value amount =>
          simp only [perform, source]
          split <;> rfl
  | _ => rfl

/-- Only loading the limits touches the request for them. -/
theorem limits_perform (now : Instant) {duty : Duty} (loads : duty ≠ .loadLimits) :
    (pipeline.perform settings now duty).limits = pipeline.limits := by
  cases duty with
  | loadLimits => exact (loads rfl).elim
  | rearm | revalidate | validateWaiting | forecast =>
      simp only [perform]
      split <;> rfl
  | convert =>
      cases source : pipeline.state.entry.source with
      | unknown | zero =>
          simp only [perform, source]
          rfl
      | value amount =>
          simp only [perform, source]
          split <;> rfl
  | _ => rfl

/-- Only arming sets the deadline. -/
theorem debouncer_perform (now : Instant) {duty : Duty} (arms : duty ≠ .arm) :
    (pipeline.perform settings now duty).debouncer = pipeline.debouncer := by
  cases duty with
  | arm => exact (arms rfl).elim
  | rearm | revalidate | validateWaiting | forecast | loadLimits =>
      simp only [perform, startLimits]
      split <;> rfl
  | convert =>
      cases source : pipeline.state.entry.source with
      | unknown | zero =>
          simp only [perform, source]
          rfl
      | value amount =>
          simp only [perform, source]
          split <;> rfl
  | _ => rfl

/-- What a pipeline looks like once it has done a duty. -/
structure Performed (pipeline : Pipeline) (duty : Duty) (rest : List Duty) (next : Pipeline) :
    Prop where
  state : next.state = published pipeline.state duty
  duties : next.duties = added pipeline.state duty ++ rest
  inputs : next.inputs = pipeline.inputs
  completions : next.completions = pipeline.completions
  running : next.running = pipeline.running
  inputsOpen : next.inputsOpen = pipeline.inputsOpen
  conversions : duty ≠ .cancelConversion → duty ≠ .convert →
    next.conversions = pipeline.conversions
  bonuses : duty ≠ .cancelBonus → duty ≠ .forecast → next.bonuses = pipeline.bonuses
  limits : duty ≠ .loadLimits → next.limits = pipeline.limits
  debouncer : duty ≠ .arm → next.debouncer = pipeline.debouncer

/-- Whatever duty is performed, all but its own part of the pipeline stays as it is. -/
theorem performed (settings : PipelineSettings) (now : Instant) (pipeline : Pipeline) (duty : Duty)
    (rest : List Duty) :
    Performed pipeline duty rest
      (({ pipeline with duties := rest } : Pipeline).perform settings now duty) where
  state := state_perform now duty
  duties := duties_perform now duty
  inputs := (perform_frame now duty).1
  completions := (perform_frame now duty).2.1
  running := (perform_frame now duty).2.2.1
  inputsOpen := (perform_frame now duty).2.2.2
  conversions := conversions_perform now
  bonuses := bonuses_perform now
  limits := limits_perform now
  debouncer := debouncer_perform now

/-! ## Where the other side is derived -/

/-- Whether a duty is a step of deriving the other side. -/
def settles : Duty → Bool
  | .convert | .settle _ | .publish (.conversionSettled _) => true
  | _ => false

/-- No input asks for a step of deriving the other side. -/
theorem not_settles_of_mem_inputDuties {input : AmountInput} {duty : Duty}
    (member : duty ∈ inputDuties input) : settles duty = false := by
  cases input with
  | setup methods currency | switchCurrency | selectMethod method =>
      simp only [inputDuties, List.mem_cons, List.not_mem_nil, or_false] at member
      rcases member with rfl | rfl | rfl <;> rfl
  | edit text =>
      simp only [inputDuties] at member
      split at member
      · cases member
      · simp only [List.mem_cons, List.not_mem_nil, or_false] at member
        rcases member with rfl | rfl | rfl | rfl | rfl <;> rfl

/-- No check asks for a step of deriving the other side. -/
theorem not_settles_of_mem_validationDuties {state : ScreenState} {duty : Duty}
    (member : duty ∈ validationDuties state) : settles duty = false := by
  simp only [validationDuties] at member
  split at member
  · rw [List.mem_singleton.mp member]
    rfl
  · cases member
  · split at member
    · simp only [List.mem_cons, List.not_mem_nil, or_false] at member
      rcases member with rfl | rfl | rfl | rfl <;> rfl
    · simp only [List.mem_cons, List.not_mem_nil, or_false] at member
      rcases member with rfl | rfl | rfl | rfl | rfl | rfl | rfl <;> rfl

/-- The steps of deriving the other side lead to one another and come from nowhere else. -/
theorem settles_of_mem_added {state : ScreenState} {duty new : Duty}
    (member : new ∈ added state duty)
    (leads : settles new = true) :
    (duty = .convert ∧ ∃ derived, new = .settle derived)
      ∨ ∃ derived, duty = .settle derived ∧ new = .publish (.conversionSettled derived) := by
  cases duty with
  | convert =>
      refine .inl ⟨rfl, ?_⟩
      simp only [added] at member
      split at member
      · exact ⟨_, List.mem_singleton.mp member⟩
      · exact ⟨_, List.mem_singleton.mp member⟩
      · split at member
        · cases member
        · exact ⟨_, List.mem_singleton.mp member⟩
  | settle derived =>
      refine .inr ⟨derived, rfl, ?_⟩
      simp only [added, List.mem_cons, List.not_mem_nil, or_false] at member
      rcases member with rfl | rfl | rfl
      · rfl
      · cases leads
      · cases leads
  | validate =>
      rw [not_settles_of_mem_validationDuties member] at leads
      cases leads
  | rearm =>
      simp only [added] at member
      split at member
      · cases member
      · simp only [List.mem_cons, List.not_mem_nil, or_false] at member
        rcases member with rfl | rfl <;> cases leads
  | revalidate =>
      simp only [added] at member
      split at member
      · simp only [List.mem_cons, List.not_mem_nil, or_false] at member
        rcases member with rfl | rfl <;> cases leads
      · cases member
  | validateWaiting =>
      simp only [added] at member
      split at member
      · rw [List.mem_singleton.mp member] at leads
        cases leads
      · cases member
  | emit _ | announceSide | announceAmounts | announceSubmit =>
      rw [List.mem_singleton.mp member] at leads
      cases leads
  | publish _ | cancelConversion | cancelBonus | arm | forecast | loadLimits => cases member

/-! ## Where published actions come from -/

/-- The action that an input asks for, if it is taken over. -/
def actionOf : AmountInput → Option ScreenAction
  | .setup methods currency => some (.setupLoaded methods currency)
  | .edit text => (AmountValue.ofText? text).map fun _ => .amountEdited text
  | .switchCurrency => some .currencySwitched
  | .selectMethod method => some (.methodSelected method)

/-- An input publishes its own action and nothing else. -/
theorem publish_mem_inputDuties {input : AmountInput} {action : ScreenAction} :
    .publish action ∈ inputDuties input ↔ actionOf input = some action := by
  cases input with
  | setup methods currency | switchCurrency | selectMethod method =>
      simp only [inputDuties, actionOf, List.mem_cons, Duty.publish.injEq, reduceCtorEq,
        List.not_mem_nil, or_false, Option.some.injEq]
      exact eq_comm
  | edit text =>
      simp only [inputDuties, actionOf]
      cases AmountValue.ofText? text with
      | none => simp only [List.not_mem_nil, Option.map_none, reduceCtorEq]
      | some value =>
          simp only [List.mem_cons, Duty.publish.injEq, reduceCtorEq, List.not_mem_nil, or_false,
            false_or, Option.map_some, Option.some.injEq]
          exact eq_comm

/-- An input publishes nothing but itself. -/
theorem input_of_publish {input : AmountInput} {action : ScreenAction}
    (member : .publish action ∈ inputDuties input) :
    (∃ methods currency, input = .setup methods currency ∧ action = .setupLoaded methods currency)
      ∨ (∃ text, input = .edit text ∧ action = .amountEdited text)
      ∨ (input = .switchCurrency ∧ action = .currencySwitched)
      ∨ ∃ method, input = .selectMethod method ∧ action = .methodSelected method := by
  have asks := publish_mem_inputDuties.mp member
  cases input with
  | setup methods currency => exact .inl ⟨methods, currency, rfl, (Option.some.inj asks).symm⟩
  | edit text =>
      obtain ⟨_, _, same⟩ := Option.map_eq_some_iff.mp asks
      exact .inr (.inl ⟨text, rfl, same.symm⟩)
  | switchCurrency => exact .inr (.inr (.inl ⟨rfl, (Option.some.inj asks).symm⟩))
  | selectMethod method => exact .inr (.inr (.inr ⟨method, rfl, (Option.some.inj asks).symm⟩))

/-- A finished request publishes limits that have been loaded, or a forecast that is still
wanted. -/
theorem publish_mem_completionDuties {completion : Completion} {action : ScreenAction}
    (member : .publish action ∈ pipeline.completionDuties completion) :
    (∃ limits, completion = .limitsLoaded (some limits) ∧ action = .limitsLoaded limits)
      ∨ ∃ ticket bonus, completion = .bonusLoaded ticket bonus
          ∧ pipeline.bonuses.isCurrent ticket = true ∧ action = .bonusUpdated bonus := by
  cases completion with
  | converted ticket derived =>
      simp only [completionDuties] at member
      split at member
      · cases List.mem_singleton.mp member
      · cases member
  | limitsLoaded limits =>
      cases limits with
      | none => cases member
      | some limits =>
          simp only [completionDuties, List.mem_cons, Duty.publish.injEq, reduceCtorEq,
            List.not_mem_nil, or_false] at member
          exact .inl ⟨limits, rfl, member⟩
  | bonusLoaded ticket bonus =>
      simp only [completionDuties] at member
      split at member
      · next current =>
          simp only [List.mem_cons, Duty.publish.injEq, reduceCtorEq, List.not_mem_nil, or_false,
            false_or] at member
          exact .inr ⟨ticket, bonus, rfl, current, member⟩
      · cases member

/-- Only the report of the latest conversion is taken over. -/
theorem settle_mem_completionDuties {completion : Completion} {derived : AmountValue}
    (member : .settle derived ∈ pipeline.completionDuties completion) :
    ∃ ticket, completion = .converted ticket derived ∧ ticket = pipeline.conversions.ticket := by
  cases completion with
  | converted ticket other =>
      simp only [completionDuties] at member
      split at member
      · next current =>
          cases List.mem_singleton.mp member
          refine ⟨ticket, rfl, ?_⟩
          cases ticket
          exact congrArg Ticket.mk (beq_iff_eq.mp current)
      · cases member
  | limitsLoaded limits =>
      cases limits with
      | none => cases member
      | some limits =>
          simp only [completionDuties, List.mem_cons, reduceCtorEq, List.not_mem_nil,
            or_false] at member
  | bonusLoaded ticket bonus =>
      simp only [completionDuties] at member
      split at member
      · simp only [List.mem_cons, reduceCtorEq, List.not_mem_nil, or_false] at member
      · cases member

/-- A check publishes its verdict, and it withdraws the bonus of an amount outside the limits. -/
theorem publish_mem_validationDuties {state : ScreenState} {action : ScreenAction}
    (member : .publish action ∈ validationDuties state) :
    (∃ bounds, action = .boundsValidated bounds) ∨ action = .bonusUpdated none := by
  simp only [validationDuties] at member
  split at member
  · cases List.mem_singleton.mp member
  · cases member
  · next bounds effective _ _ =>
      simp only [List.mem_cons, Duty.publish.injEq, reduceCtorEq, false_or] at member
      rcases member with rfl | member
      · exact .inl ⟨bounds, rfl⟩
      · split at member
        · simp only [List.mem_cons, reduceCtorEq, List.not_mem_nil, or_false] at member
        · simp only [List.mem_cons, Duty.publish.injEq, reduceCtorEq, List.not_mem_nil, or_false,
            false_or] at member
          exact .inr member

/-- What a duty adds publishes what has been derived, a verdict, or that there is no bonus. -/
theorem publish_mem_added {state : ScreenState} {duty : Duty} {action : ScreenAction}
    (member : .publish action ∈ added state duty) :
    (∃ derived, duty = .settle derived ∧ action = .conversionSettled derived)
      ∨ (∃ bounds, action = .boundsValidated bounds) ∨ action = .bonusUpdated none := by
  cases duty with
  | settle derived =>
      simp only [added, List.mem_cons, Duty.publish.injEq, reduceCtorEq, List.not_mem_nil,
        or_false] at member
      exact .inl ⟨derived, rfl, member⟩
  | validate => exact .inr (publish_mem_validationDuties member)
  | rearm | revalidate | validateWaiting =>
      simp only [added] at member
      split at member <;>
        simp only [List.mem_cons, reduceCtorEq, List.not_mem_nil, or_false] at member
  | convert =>
      simp only [added] at member
      split at member
      · cases List.mem_singleton.mp member
      · cases List.mem_singleton.mp member
      · split at member
        · cases member
        · cases List.mem_singleton.mp member
  | emit _ | announceSide | announceAmounts | announceSubmit =>
      cases List.mem_singleton.mp member
  | publish _ | cancelConversion | cancelBonus | arm | forecast | loadLimits => cases member

/-! ## What is taken over -/

/-- Whether a duty takes over what has been set up, loaded or derived. -/
def renews : Duty → Bool
  | .publish (.setupLoaded _ _) | .publish (.limitsLoaded _) => true
  | duty => settles duty

/-- A duty that takes nothing over is no step of deriving the other side. -/
theorem not_settles_of_not_renews {duty : Duty} (keeps : renews duty = false) :
    settles duty = false := by
  unfold renews at keeps
  split at keeps
  · cases keeps
  · cases keeps
  · exact keeps

/-- Of the duties that a duty adds, only steps of deriving the other side take anything over. -/
theorem settles_of_renews_of_mem_added {state : ScreenState} {duty new : Duty}
    (member : new ∈ added state duty)
    (takes : renews new = true) : settles new = true := by
  unfold renews at takes
  split at takes
  · rcases publish_mem_added member with ⟨_, _, same⟩ | ⟨_, same⟩ | same <;> cases same
  · rcases publish_mem_added member with ⟨_, _, same⟩ | ⟨_, same⟩ | same <;> cases same
  · exact takes

/-- A duty that takes nothing over adds none that does. -/
theorem not_renews_of_mem_added {state : ScreenState} {duty new : Duty}
    (member : new ∈ added state duty)
    (keeps : renews duty = false) : renews new = false := by
  refine Bool.eq_false_iff.mpr fun takes => ?_
  have leads := settles_of_renews_of_mem_added member takes
  rcases settles_of_mem_added member leads with ⟨rfl, _⟩ | ⟨_, rfl, _⟩ <;> cases keeps

/-- Of what an input asks for, only the setup takes anything over. -/
theorem not_renews_of_mem_inputDuties {input : AmountInput} {duty : Duty}
    (member : duty ∈ inputDuties input)
    (other : ∀ methods currency, duty ≠ .publish (.setupLoaded methods currency)) :
    renews duty = false := by
  unfold renews
  split
  · exact (other _ _ rfl).elim
  · rcases input_of_publish member with ⟨_, _, _, same⟩ | ⟨_, _, same⟩ | ⟨_, same⟩ | ⟨_, _, same⟩
      <;> cases same
  · exact not_settles_of_mem_inputDuties member

end Pipeline

/-! ## What an action does to the parts of a state -/

namespace AmountEntry

/-- Replacing the amount of a side leaves the currency. -/
@[simp] theorem currency_withSide (entry : AmountEntry) (side : Side) (value : AmountValue) :
    (entry.withSide side value).currency = entry.currency := by
  cases side <;> rfl

/-- Replacing the amount of one side leaves that of the other. -/
@[simp] theorem side_withSide_opposite (entry : AmountEntry) (side : Side) (value : AmountValue) :
    (entry.withSide side.other value).side side = entry.side side := by
  cases side <;> rfl

end AmountEntry

namespace ScreenState

variable {state : ScreenState}

/-- Only the setup changes the currency. -/
theorem currency_next (action : ScreenAction)
    (other : ∀ methods currency, action ≠ .setupLoaded methods currency) :
    (state.next action).entry.currency = state.entry.currency := by
  cases action with
  | setupLoaded methods currency => exact (other methods currency rfl).elim
  | amountEdited text =>
      simp only [next]
      split
      · rfl
      · simp only [AmountEntry.currency_withSide]
  | conversionSettled derived => exact AmountEntry.currency_withSide _ _ _
  | _ => rfl

/-- A method gets selected only by its selection. -/
theorem selectedMethod_next {action : ScreenAction} {method : PaymentMethod}
    (selected : (state.next action).selectedMethod = some method) :
    action = .methodSelected method ∨ state.selectedMethod = some method := by
  cases action with
  | setupLoaded methods currency =>
      refine .inr ?_
      simp only [next, stillOffered] at selected
      split at selected
      · cases selected
      · split at selected
        · next same _ => exact same.trans selected
        · cases selected
  | amountEdited text =>
      simp only [next] at selected
      split at selected <;> exact .inr selected
  | methodSelected other =>
      obtain rfl := Option.some.inj selected
      exact .inl rfl
  | _ => exact .inr selected

/-- Limits become known only by being loaded. -/
theorem limits_next {action : ScreenAction} {limits : TopUpLimits}
    (known : (state.next action).limits = some limits) :
    action = .limitsLoaded limits ∨ state.limits = some limits := by
  cases action with
  | limitsLoaded other =>
      obtain rfl := Option.some.inj known
      exact .inl rfl
  | amountEdited text =>
      simp only [next] at known
      split at known <;> exact .inr known
  | _ => exact .inr known

/-- Limits that are known stay known. -/
theorem limits_next_ne_none (action : ScreenAction) (known : state.limits ≠ none) :
    (state.next action).limits ≠ none := by
  cases action with
  | limitsLoaded limits => exact Option.some_ne_none _
  | amountEdited text =>
      simp only [next]
      split <;> exact known
  | _ => exact known

/-- An amount is within the limits or not only once that has been checked. -/
theorem bounds_next {action : ScreenAction} (checked : (state.next action).bounds ≠ none) :
    (∃ bounds, action = .boundsValidated bounds) ∨ state.bounds ≠ none := by
  cases action with
  | boundsValidated bounds => exact .inl ⟨bounds, rfl⟩
  | amountEdited text =>
      simp only [next] at checked
      split at checked
      · exact .inr checked
      · exact (checked rfl).elim
  | _ => exact .inr checked

end ScreenState

end WalletTopUp
