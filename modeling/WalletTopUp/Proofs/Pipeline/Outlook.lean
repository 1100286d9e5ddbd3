import WalletTopUp.Proofs.Pipeline.CatchUp
import WalletTopUp.Proofs.Pipeline.Events

/-!
# What a pipeline is heading for

The inputs that a pipeline has not handled yet already determine the state that it will be in once
it has: the actions that they ask for, made one after another (`Pipeline.outlook`).  Whatever goes
on in the meantime, handling them leads there, up to the check against the limits and the bonus
(`Pipeline.outlook_of_reaches`), as long as nothing that is pending takes over what has been set up,
loaded or derived (`Pipeline.Steady`).  That is so whenever the state may be submitted
(`Pipeline.steady_of_canSubmit`).
-/

namespace WalletTopUp

namespace ScreenState

variable {state other : ScreenState} {actions : List ScreenAction}

/-- The state without what follows from the rest of it, the check against the limits and the
bonus. -/
def unchecked (state : ScreenState) : ScreenState := { state with bounds := none, bonus := none }

/-- What an action does to the unchecked part of a state depends on that part only. -/
theorem unchecked_next (action : ScreenAction) (same : state.unchecked = other.unchecked) :
    (state.next action).unchecked = (other.next action).unchecked := by
  obtain ⟨entry, methods, selectedMethod, limits, _, _, settled⟩ := state
  obtain ⟨_, _, _, _, _, _, _⟩ := other
  cases same
  cases action with
  | amountEdited text =>
      simp only [next]
      split <;> rfl
  | _ => rfl

/-- So it is with a series of actions. -/
theorem unchecked_foldl (same : state.unchecked = other.unchecked) :
    (actions.foldl next state).unchecked = (actions.foldl next other).unchecked := by
  induction actions generalizing state other with
  | nil => exact same
  | cons action actions ih => exact ih (unchecked_next action same)

/-- Checking against the limits and forecasting a bonus change nothing else. -/
theorem unchecked_foldl_of_checks
    (checks : ∀ action ∈ actions,
      (∃ bounds, action = .boundsValidated bounds) ∨ action = .bonusUpdated none) :
    (actions.foldl next state).unchecked = state.unchecked := by
  induction actions generalizing state with
  | nil => rfl
  | cons action actions ih =>
      obtain ⟨first, rest⟩ := List.forall_mem_cons.mp checks
      refine (ih rest).trans ?_
      rcases first with ⟨bounds, rfl⟩ | rfl <;> rfl

end ScreenState

namespace ScreenAction

/-- Whether an action takes an amount over that has been typed. -/
def edits : ScreenAction → Bool
  | .amountEdited text => (AmountValue.ofText? text).isSome
  | _ => false

/-- The selected method after an action, given the one that was selected before. -/
def selecting (current : Option PaymentMethod) : ScreenAction → Option PaymentMethod
  | .methodSelected method => some method
  | _ => current

end ScreenAction

namespace Pipeline

variable {settings : PipelineSettings} {pipeline next due : Pipeline} {past later : History}

/-! ## What is pending -/

/-- The action that a duty publishes. -/
def publishes? : Duty → Option ScreenAction
  | .publish action => some action
  | _ => none

/-- The actions that a pipeline is going to publish for the input it has taken last and for those
that are waiting. -/
def pending (pipeline : Pipeline) : List ScreenAction :=
  pipeline.duties.filterMap publishes? ++ pipeline.inputs.filterMap actionOf

/-- An amount has been typed that the pipeline has not taken over yet. -/
def EditAhead (pipeline : Pipeline) : Prop := ∃ action ∈ pipeline.pending, action.edits = true

/-- The method that will be selected once everything that is pending has been handled. -/
def methodAhead (pipeline : Pipeline) : Option PaymentMethod :=
  pipeline.pending.foldl ScreenAction.selecting pipeline.state.selectedMethod

/-- The state that the pending actions lead to, apart from checks and bonuses. -/
def outlook (pipeline : Pipeline) : ScreenState :=
  (pipeline.pending.foldl ScreenState.next pipeline.state).unchecked

/-- Only a duty to publish publishes. -/
theorem publishes?_eq_some_iff {duty : Duty} {action : ScreenAction} :
    publishes? duty = some action ↔ duty = .publish action := by
  cases duty <;> simp only [publishes?, Option.some.injEq, Duty.publish.injEq, reduceCtorEq]

/-- An input publishes its own action, if it is taken over. -/
theorem filterMap_publishes?_inputDuties (input : AmountInput) :
    (inputDuties input).filterMap publishes? = (actionOf input).toList := by
  cases input with
  | setup _ _ | switchCurrency | selectMethod _ => rfl
  | edit text =>
      simp only [inputDuties, actionOf]
      cases AmountValue.ofText? text <;> rfl

/-- A pipeline that has caught up has nothing pending. -/
theorem pending_of_isCaughtUp (caughtUp : pipeline.IsCaughtUp) : pipeline.pending = [] := by
  rw [pending, caughtUp.1, caughtUp.2]
  rfl

/-- Nothing that is pending takes over what has been set up, loaded or derived. -/
structure Steady (pipeline : Pipeline) : Prop where
  keeps : ∀ duty ∈ pipeline.duties, renews duty = false
  noSetup : ∀ methods currency, .setup methods currency ∉ pipeline.inputs
  /-- A pipeline that is shut down with inputs left never handles them. -/
  lives : pipeline.running = true ∨ pipeline.inputs ≠ []

/-- What is pending takes nothing over that has been set up, loaded or derived. -/
theorem Steady.keeps_pending {action : ScreenAction}
    (steady : pipeline.Steady)
    (member : action ∈ pipeline.pending) : renews (.publish action) = false := by
  rcases List.mem_append.mp member with own | waiting
  · obtain ⟨duty, inside, publishes⟩ := List.mem_filterMap.mp own
    exact publishes?_eq_some_iff.mp publishes ▸ steady.keeps duty inside
  · obtain ⟨input, inside, asks⟩ := List.mem_filterMap.mp waiting
    cases input with
    | setup methods currency => exact (steady.noSetup methods currency inside).elim
    | edit text =>
        obtain ⟨_, _, rfl⟩ := Option.map_eq_some_iff.mp asks
        rfl
    | switchCurrency | selectMethod _ =>
        cases asks
        rfl

/-! ## Handling what is pending -/

/-- Doing a duty that takes nothing over makes of the state what it was heading for. -/
theorem Performed.outlook {duty : Duty} {rest : List Duty}
    (done : Performed pipeline duty rest next)
    (head : pipeline.duties = duty :: rest)
    (stays : renews duty = false) : next.outlook = pipeline.outlook := by
  have checks : ∀ action ∈ (added pipeline.state duty).filterMap publishes?,
      (∃ bounds, action = .boundsValidated bounds) ∨ action = .bonusUpdated none := by
    intro action member
    obtain ⟨new, inside, publishes⟩ := List.mem_filterMap.mp member
    obtain rfl := publishes?_eq_some_iff.mp publishes
    rcases publish_mem_added inside with ⟨_, rfl, _⟩ | checks
    · cases stays
    · exact checks
  simp only [Pipeline.outlook, pending, done.state, done.duties, done.inputs, head,
    List.filterMap_append, List.append_assoc, List.foldl_append]
  cases duty with
  | publish action => rfl
  | _ =>
      refine ScreenState.unchecked_foldl (ScreenState.unchecked_foldl ?_)
      exact ScreenState.unchecked_foldl_of_checks checks

/-- Taking an input. -/
theorem Steady.input {input : AmountInput} {rest : List AmountInput}
    (steady : pipeline.Steady)
    (running : pipeline.running = true)
    (free : pipeline.duties = [])
    (waiting : pipeline.inputs = input :: rest) :
    ({ pipeline with inputs := rest, duties := inputDuties input } : Pipeline).Steady
      ∧ ({ pipeline with inputs := rest, duties := inputDuties input } : Pipeline).outlook
        = pipeline.outlook := by
  have noSetup := steady.noSetup
  rw [waiting] at noSetup
  refine ⟨⟨fun duty member => ?_, fun methods currency member => ?_, .inl running⟩, ?_⟩
  · refine not_renews_of_mem_inputDuties member ?_
    rintro methods currency rfl
    rcases input_of_publish member with ⟨_, _, rfl, _⟩ | ⟨_, _, same⟩ | ⟨_, same⟩ | ⟨_, _, same⟩
    · exact noSetup _ _ List.mem_cons_self
    · cases same
    · cases same
    · cases same
  · exact noSetup methods currency (List.mem_cons_of_mem _ member)
  · have same : (inputDuties input).filterMap publishes? ++ rest.filterMap actionOf
        = (input :: rest).filterMap actionOf := by
      rw [filterMap_publishes?_inputDuties, List.filterMap_cons]
      cases actionOf input <;> rfl
    simp only [outlook, pending, free, waiting, same, List.filterMap_nil, List.nil_append]

/-- A step of the pipeline's own task brings it on its way. -/
theorem Steady.ownStep {now : Instant} {sink : Sink TaskName}
    (steady : pipeline.Steady)
    (busy : ¬ pipeline.IsCaughtUp)
    (running : pipeline.running = true)
    (step : OwnStep settings now sink pipeline next) :
    next.Steady ∧ next.outlook = pipeline.outlook := by
  cases step with
  | stops free _ =>
      refine ⟨⟨steady.keeps, steady.noSetup, .inr fun noInput => ?_⟩, rfl⟩
      exact busy ⟨free, noInput⟩
  | input free waiting => exact steady.input running free waiting
  | deadline caughtUp _ | completion caughtUp _ => exact (busy caughtUp).elim
  | waits _ _ => exact ⟨steady, rfl⟩
  | tells head _ =>
      refine ⟨⟨fun duty member => steady.keeps duty ?_, steady.noSetup, .inl running⟩, ?_⟩
      · exact head ▸ List.mem_cons_of_mem _ member
      · simp only [outlook, pending, head, List.filterMap_cons, publishes?]
  | @performs duty rest head _ =>
      have done := performed settings now pipeline duty rest
      have stays : renews duty = false := steady.keeps duty (head ▸ List.mem_cons_self)
      refine ⟨⟨fun new member => ?_, ?_, .inl ?_⟩, done.outlook head stays⟩
      · rw [done.duties] at member
        rcases List.mem_append.mp member with added | left
        · exact not_renews_of_mem_added added stays
        · exact steady.keeps new (head ▸ List.mem_cons_of_mem _ left)
      · rw [done.inputs]
        exact steady.noSetup
      · exact done.running.trans running

/-- Nothing in the background changes what the pipeline is heading for. -/
theorem Steady.backgroundStep {turn : Turn}
    (steady : pipeline.Steady)
    (step : BackgroundStep pipeline turn next)
    (noInput : ∀ input, turn ≠ .send input) :
    next.Steady ∧ next.outlook = pipeline.outlook := by
  cases step with
  | send => exact (noInput _ rfl).elim
  | _ => exact ⟨⟨steady.keeps, steady.noSetup, steady.lives⟩, rfl⟩

/-- **While a steady pipeline catches up, it keeps heading for the same state.** -/
theorem outlook_of_reaches
    (steady : pipeline.Steady)
    (reached : Reaches (catchUp settings) pipeline later due) :
    due.Steady ∧ due.outlook = pipeline.outlook := by
  induction reached with
  | start => exact ⟨steady, rfl⟩
  | step _ moved ih =>
      obtain ⟨turned, busy, noInput⟩ := turn_of_catchUp moved
      rcases step_of_turn turned with ⟨now, sink, rfl, running, step⟩ | step
      · obtain ⟨steadyNext, same⟩ := ih.1.ownStep busy running step
        exact ⟨steadyNext, same.trans ih.2⟩
      · obtain ⟨steadyNext, same⟩ := ih.1.backgroundStep step noInput
        exact ⟨steadyNext, same.trans ih.2⟩

/-- Once it has caught up, a steady pipeline is in the state that it was heading for. -/
theorem unchecked_of_catchesUp
    (steady : pipeline.Steady)
    (catchesUp : CatchesUp settings pipeline due) :
    due.state.unchecked = pipeline.outlook ∧ due.running = true := by
  obtain ⟨⟨later, reached⟩, caughtUp⟩ := catchesUp
  obtain ⟨steadyDue, same⟩ := outlook_of_reaches steady reached
  refine ⟨?_, steadyDue.lives.resolve_right fun left => left caughtUp.2⟩
  rw [← same, outlook, pending_of_isCaughtUp caughtUp]
  rfl

end Pipeline

/-! ## Reading the outlook -/

/-- What actions make of a state when they take nothing over that has been set up, loaded or
derived. -/
structure ScreenState.Led (state : ScreenState) (actions : List ScreenAction)
    (later : ScreenState) : Prop where
  settled : later.settled = (state.settled && !actions.any ScreenAction.edits)
  selectedMethod : later.selectedMethod
    = actions.foldl ScreenAction.selecting state.selectedMethod
  limits : later.limits = state.limits
  currency : later.entry.currency = state.entry.currency
  amounts : actions.any ScreenAction.edits = false →
    later.entry.fiat = state.entry.fiat ∧ later.entry.token = state.entry.token

namespace ScreenState

variable {state later : ScreenState} {actions : List ScreenAction}

/-- An action that takes nothing over leads on by one step. -/
theorem led_next {action : ScreenAction} (stays : Pipeline.renews (.publish action) = false) :
    state.Led [action] (state.next action) := by
  cases action with
  | setupLoaded _ _ | conversionSettled _ | limitsLoaded _ => cases stays
  | amountEdited text =>
      cases typed : AmountValue.ofText? text with
      | none =>
          have none : ScreenAction.edits (.amountEdited text) = false := by
            rw [ScreenAction.edits, typed]
            rfl
          have same : state.next (.amountEdited text) = state := by simp only [next, typed]
          rw [same]
          refine ⟨?_, rfl, rfl, rfl, fun _ => ⟨rfl, rfl⟩⟩
          rw [List.any_cons, none, List.any_nil, Bool.or_self, Bool.not_false, Bool.and_true]
      | some value =>
          have some : ScreenAction.edits (.amountEdited text) = true := by
            rw [ScreenAction.edits, typed]
            rfl
          have any : [ScreenAction.amountEdited text].any ScreenAction.edits = true := by
            rw [List.any_cons, some, Bool.true_or]
          refine ⟨?_, ?_, ?_, currency_next _ (by simp), fun none => ?_⟩
          · simp only [next, typed, any, Bool.not_true, Bool.and_false]
          · simp only [next, typed]
            rfl
          · simp only [next, typed]
          · cases any.symm.trans none
  | boundsValidated _ | bonusUpdated _ | methodSelected _ | currencySwitched =>
      exact ⟨(Bool.and_true _).symm, rfl, rfl, rfl, fun _ => ⟨rfl, rfl⟩⟩

/-- Actions lead on one after another. -/
theorem Led.cons {action : ScreenAction} {middle : ScreenState}
    (first : state.Led [action] middle)
    (rest : middle.Led actions later) : state.Led (action :: actions) later := by
  have one : [action].any ScreenAction.edits = action.edits := Bool.or_false _
  obtain ⟨settled, selectedMethod, limits, currency, amounts⟩ := first
  rw [one] at settled amounts
  refine ⟨?_, ?_, rest.limits.trans limits, rest.currency.trans currency, fun none => ?_⟩
  · rw [rest.settled, settled, List.any_cons, Bool.not_or, Bool.and_assoc]
  · rw [rest.selectedMethod, selectedMethod]
    rfl
  · rw [List.any_cons, Bool.or_eq_false_iff] at none
    obtain ⟨fiat, token⟩ := rest.amounts none.2
    exact ⟨fiat.trans (amounts none.1).1, token.trans (amounts none.1).2⟩

/-- Actions that take nothing over lead on to the state after them. -/
theorem led_foldl
    (stay : ∀ action ∈ actions, Pipeline.renews (.publish action) = false) :
    state.Led actions (actions.foldl next state) := by
  induction actions generalizing state with
  | nil => exact ⟨(Bool.and_true _).symm, rfl, rfl, rfl, fun _ => ⟨rfl, rfl⟩⟩
  | cons action actions ih =>
      obtain ⟨first, rest⟩ := List.forall_mem_cons.mp stay
      exact (led_next first).cons (ih rest)

/-- Where actions lead is told but for the verdict and the bonus. -/
theorem Led.of_unchecked {other : ScreenState}
    (led : state.Led actions later)
    (same : other.unchecked = later.unchecked) : state.Led actions other := by
  obtain ⟨_, _, _, _, _, _, _⟩ := later
  obtain ⟨_, _, _, _, _, _, _⟩ := other
  cases same
  exact ⟨led.settled, led.selectedMethod, led.limits, led.currency, led.amounts⟩

/-- The verdict on a state whose amounts and limits have stayed as they were. -/
theorem verdict_of_led (led : state.Led actions later)
    (none : actions.any ScreenAction.edits = false) :
    later.verdict
      = ({ state with selectedMethod := later.selectedMethod } : ScreenState).verdict := by
  simp only [verdict, Gate.check, led.limits, (led.amounts none).1]

end ScreenState

namespace Pipeline

variable {settings : PipelineSettings} {pipeline due : Pipeline} {past : History}

/-- Whether an edit is ahead can be computed from what is pending. -/
theorem not_editAhead_iff : ¬ pipeline.EditAhead ↔
    pipeline.pending.any ScreenAction.edits = false := by
  rw [← Bool.not_eq_true, List.any_eq_true]
  rfl

/-! ## From a state that may be submitted -/

/-- Limits are loaded before an amount is checked against them. -/
theorem limits_of_checked
    (reached : Reaches (Pipeline.turn settings) (start settings) past pipeline)
    (checked : pipeline.state.bounds ≠ none) : pipeline.state.limits ≠ none := by
  induction reached with
  | start => exact (checked rfl).elim
  | @step past middle next turn earlier moved ih =>
      rcases step_of_turn moved with ⟨now, sink, rfl, running, step⟩ | step
      · cases step with
        | @performs duty rest head _ =>
            have done := performed settings now middle duty rest
            rw [done.state] at checked ⊢
            cases duty with
            | publish action =>
                rcases ScreenState.bounds_next checked with ⟨bounds, rfl⟩ | before
                · have verdict := ((ready_of_anyOrder earlier running).before head).2
                  intro unknown
                  cases (ScreenState.verdict_eq_none_iff.mpr (.inr unknown)).symm.trans verdict
                · exact ScreenState.limits_next_ne_none action (ih before)
            | _ => exact ih checked
        | _ => exact ih checked
      · have same := (background_of_backgroundStep step).state
        rw [same] at checked ⊢
        exact ih checked

/-- A step of deriving the other side is done only while the other side is unknown. -/
theorem awaitsDerived_of_before {duty : Duty}
    (leads : settles duty = true)
    (before : Before True duty pipeline) : pipeline.AwaitsDerived := by
  cases duty with
  | convert | settle _ => exact before
  | publish action =>
      cases action with
      | conversionSettled derived => exact before
      | _ => cases leads
  | _ => cases leads

/-- Nothing that is pending in a state that may be submitted takes over what has been set up, loaded
or derived. -/
theorem steady_of_canSubmit
    (reached : Reaches (Pipeline.turn settings) (start settings) past pipeline)
    (inOrder : AmountInput.InOrder (sent past))
    (running : pipeline.running = true)
    (canSubmit : Gate.canSubmit pipeline.state = true) : pipeline.Steady := by
  obtain ⟨settled, within, _, _, chosen⟩ := Gate.canSubmit_iff.mp canSubmit
  refine ⟨fun duty member => ?_, fun methods currency member => ?_, .inl running⟩
  · cases duties : pipeline.duties with
    | nil =>
        rw [duties] at member
        cases member
    | cons first rest =>
        have tail := renewsFirst_of_reaches reached
        rw [RenewsFirst, duties] at tail
        rw [duties] at member
        rcases List.mem_cons.mp member with rfl | left
        · have before := (ready_of_inOrder reached inOrder running).before duties
          refine Bool.eq_false_iff.mpr fun takes => ?_
          unfold renews at takes
          split at takes
          · exact chosen (before trivial)
          · exact limits_of_checked reached (within ▸ Option.some_ne_none _) before
          · cases settled.symm.trans (awaitsDerived_of_before takes before).unsettled
        · exact tail duty left
  · obtain ⟨method, selected⟩ := Option.ne_none_iff_exists'.mp chosen
    obtain ⟨taken, received, same⟩ := received_of_reaches reached
    rw [same] at inOrder
    obtain ⟨_, _, across⟩ := List.pairwise_append.mp inOrder
    exact (across _ (received.selected method selected) _ member _ _ rfl).2 method rfl

/-- What a steady pipeline makes of its state when it catches up. -/
theorem led_of_catchesUp
    (steady : pipeline.Steady)
    (catchesUp : CatchesUp settings pipeline due) :
    pipeline.state.Led pipeline.pending due.state :=
  (ScreenState.led_foldl fun _ member => steady.keeps_pending member).of_unchecked
    (unchecked_of_catchesUp steady catchesUp).1

/-- Once it has caught up, a settled amount has been checked against the limits that hold now. -/
theorem checked_of_catchesUp
    (reached : Reaches (Pipeline.turn settings) (start settings) past pipeline)
    (inOrder : AmountInput.InOrder (sent past))
    (steady : pipeline.Steady)
    (catchesUp : CatchesUp settings pipeline due)
    (settled : due.state.settled = true) : due.state.bounds = due.state.verdict := by
  have running := (unchecked_of_catchesUp steady catchesUp).2
  obtain ⟨⟨later, catching⟩, caughtUp⟩ := catchesUp
  have reachedDue : Reaches (Pipeline.turn settings) (start settings) (later ++ past) due :=
    reached.trans (catching.mono fun _ _ _ moved => (turn_of_catchUp moved).1)
  have inOrderDue : AmountInput.InOrder (sent (later ++ past)) :=
    (sent_of_catchUp catching past).symm ▸ inOrder
  exact ((ready_of_inOrder reachedDue inOrderDue running).atRest caughtUp.1).checked trivial settled

/-- **When a state that may be submitted still may be submitted** once the pipeline has caught up:
no amount that has been typed is left to be taken over, and the amount is within the limits of the
method that is selected then. -/
theorem canSubmit_of_catchesUp_iff
    (reached : Reaches (Pipeline.turn settings) (start settings) past pipeline)
    (inOrder : AmountInput.InOrder (sent past))
    (running : pipeline.running = true)
    (canSubmit : Gate.canSubmit pipeline.state = true)
    (catchesUp : CatchesUp settings pipeline due) :
    Gate.canSubmit due.state = true ↔
      ¬ pipeline.EditAhead ∧ pipeline.methodAhead ≠ none
        ∧ ({ pipeline.state with selectedMethod := pipeline.methodAhead } : ScreenState).verdict
          = some .within := by
  have steady := steady_of_canSubmit reached inOrder running canSubmit
  have led := led_of_catchesUp steady catchesUp
  have method : due.state.selectedMethod = pipeline.methodAhead := led.selectedMethod
  have checked := checked_of_catchesUp reached inOrder steady catchesUp
  obtain ⟨settled, _, fiat, token, _⟩ := Gate.canSubmit_iff.mp canSubmit
  have settledDue := led.settled
  rw [settled, Bool.true_and] at settledDue
  rw [not_editAhead_iff, ← method]
  constructor
  · intro may
    obtain ⟨still, within, _, _, chosen⟩ := Gate.canSubmit_iff.mp may
    have none : pipeline.pending.any ScreenAction.edits = false :=
      (Bool.not_eq_true' _).mp (settledDue.symm.trans still)
    refine ⟨none, chosen, ?_⟩
    rw [← ScreenState.verdict_of_led led none, ← checked still]
    exact within
  · rintro ⟨none, chosen, within⟩
    obtain ⟨sameFiat, sameToken⟩ := led.amounts none
    have still : due.state.settled = true := by rw [settledDue, none, Bool.not_false]
    refine Gate.canSubmit_iff.mpr ⟨still, ?_, sameFiat ▸ fiat, sameToken ▸ token, chosen⟩
    rw [checked still, ScreenState.verdict_of_led led none]
    exact within

end Pipeline

end WalletTopUp
