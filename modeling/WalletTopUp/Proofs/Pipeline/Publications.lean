import WalletTopUp.Proofs.Pipeline.Supersession

/-!
# Published states

The state that a pipeline publishes holds the last check of the amount against the limits, and it is
published after every action, also in the middle of handling an input.  The check is one of the
state as it is, except right after another method has been selected: then the amount is about to be
checked anew, and until it has been the state holds the check for the method before
(`Pipeline.Honest`).  So every published state that may be submitted holds an amount within the
limits of the top-up, and within those of its method unless it is the state that the selection of
this method publishes (`PipelineRun.published_within_bounds`).  The pipeline does not give way to
anybody before it has checked the amount again.
-/

namespace WalletTopUp

/-- The check that a state holds, if it holds one, is one of this very state. -/
def ScreenState.Agrees (state : ScreenState) : Prop :=
  state.bounds = none ∨ state.bounds = state.verdict

/-- The fiat amount is known, and it is within the limits of the top-up and of the method that is
selected. -/
def ScreenState.WithinBounds (state : ScreenState) : Prop :=
  ∃ amount limits method, state.entry.fiat = .value amount ∧ state.limits = some limits
    ∧ state.selectedMethod = some method ∧ limits.Allow amount ∧ method.Takes amount

namespace Pipeline

variable {settings : PipelineSettings} {pipeline next : Pipeline} {past : History}
  {told : List Effect}

/-! ## Await points -/

/-- Whether the pipeline's own task is at an await point: it waits for something to happen, or it is
about to tell the presentation layer something. -/
def isAwaiting (pipeline : Pipeline) : Bool :=
  match pipeline.duties with
  | [] | .emit _ :: _ => true
  | _ => false

/-- At an await point the pipeline has nothing left to do or tells something next. -/
theorem head_of_isAwaiting (awaiting : pipeline.isAwaiting = true) :
    pipeline.duties = [] ∨ ∃ effect rest, pipeline.duties = .emit effect :: rest := by
  unfold isAwaiting at awaiting
  split at awaiting
  · next free => exact .inl free
  · next effect rest head => exact .inr ⟨effect, rest, head⟩
  · cases awaiting

/-- At an await point a state that may be submitted has been checked against the limits that it
holds now. -/
theorem verdict_of_canSubmit
    (ready : (agreement True).Ready settings told pipeline)
    (awaiting : pipeline.isAwaiting = true)
    (canSubmit : Gate.canSubmit pipeline.state = true) :
    pipeline.state.verdict = some .within := by
  obtain ⟨settled, within, _⟩ := Gate.canSubmit_iff.mp canSubmit
  rcases head_of_isAwaiting awaiting with free | ⟨effect, rest, head⟩
  · exact ((ready.atRest free).checked trivial settled).symm.trans within
  · rcases (ready.before head).2 trivial with unchecked | agreed
    · cases unchecked.symm.trans within
    · exact agreed.symm.trans within

/-- At an await point no setup is about to be taken over. -/
theorem not_settingUp_of_isAwaiting {methods : List PaymentMethod} {currency : LocalCurrency}
    (awaiting : pipeline.isAwaiting = true) :
    pipeline.duties ≠ inputDuties (.setup methods currency) := by
  intro settingUp
  rcases head_of_isAwaiting awaiting with free | ⟨_, _, head⟩
  · cases free.symm.trans settingUp
  · cases head.symm.trans settingUp

/-! ## The invariant -/

/-- Whether the amount is about to be checked anew, before anything else is told or taken. -/
def rechecks : List Duty → Bool
  | .revalidate :: _ | .validate :: _ | .cancelBonus :: .validate :: _
  | .publish (.boundsValidated _) :: _ => true
  | _ => false

/-- The check that the state holds is one of the state as it is now, or it is about to be replaced
by one. -/
structure Honest (pipeline : Pipeline) : Prop where
  unsettled : pipeline.state.settled = false → pipeline.state.bounds = none
  checked : pipeline.state.Agrees
    ∨ (rechecks pipeline.duties = true ∧ pipeline.state.settled = true
      ∧ pipeline.state.verdict ≠ none)
  selecting : ∀ method, .publish (.methodSelected method) ∈ pipeline.duties →
    pipeline.duties = inputDuties (.selectMethod method)

/-- At the start there is no verdict to be wrong. -/
theorem honest_start : (start settings).Honest where
  unsettled _ := rfl
  checked := .inl (.inl rfl)
  selecting _ member := by cases member

/-- A state that is not about to be checked anew agrees with its verdict. -/
theorem Honest.agrees (honest : pipeline.Honest) (calm : rechecks pipeline.duties = false) :
    pipeline.state.Agrees :=
  honest.checked.resolve_right fun pending => Bool.noConfusion (calm.symm.trans pending.1)

/-- Only the selection of a method can leave a state with the check of another one. -/
theorem Honest.agrees_next {action : ScreenAction} {rest : List Duty}
    (honest : pipeline.Honest)
    (head : pipeline.duties = .publish action :: rest)
    (before : Before True (.publish action) pipeline)
    (other : ∀ method, action ≠ .methodSelected method) : (pipeline.state.next action).Agrees := by
  cases action with
  | methodSelected method => exact (other method rfl).elim
  | boundsValidated bounds => exact .inr before.2.symm
  | amountEdited text =>
      obtain ⟨typed, value⟩ := Option.isSome_iff_exists.mp before.1
      refine .inl ?_
      simp only [ScreenState.next, value]
  | conversionSettled derived => exact .inl before.unchecked
  | setupLoaded methods currency =>
      have agrees := honest.agrees (by rw [head]; rfl)
      have unselected : pipeline.state.selectedMethod = none := before trivial
      simpa only [ScreenState.Agrees, ScreenState.verdict, Gate.check, ScreenState.next,
        ScreenState.stillOffered, unselected] using agrees
  | limitsLoaded limits =>
      have unlimited : pipeline.state.verdict = none :=
        ScreenState.verdict_eq_none_iff.mpr (.inr before)
      rcases honest.agrees (by rw [head]; rfl) with unchecked | agreed
      · exact .inl unchecked
      · exact .inl (agreed.trans unlimited)
  | bonusUpdated bonus =>
      have agrees := honest.agrees (by rw [head]; rfl)
      exact agrees
  | currencySwitched =>
      have agrees := honest.agrees (by rw [head]; rfl)
      exact agrees

/-- A method may change the verdict, but not whether there is one. -/
theorem Honest.checked_select {method : PaymentMethod} {rest : List Duty}
    (honest : pipeline.Honest)
    (head : pipeline.duties = .publish (.methodSelected method) :: rest) :
    (pipeline.state.next (.methodSelected method)).Agrees
      ∨ (rechecks rest = true ∧ (pipeline.state.next (.methodSelected method)).settled = true
        ∧ (pipeline.state.next (.methodSelected method)).verdict ≠ none) := by
  have selecting := honest.selecting method (head ▸ List.mem_cons_self)
  obtain rfl : rest = [.revalidate] := (List.cons.inj (head.symm.trans selecting)).2
  rcases honest.agrees (by rw [head]; rfl) with unchecked | agreed
  · exact .inl (.inl unchecked)
  · cases verdict : pipeline.state.verdict with
    | none => exact .inl (.inl (agreed.trans verdict))
    | some bounds =>
        refine .inr ⟨rfl, ?_, fun unknown => ?_⟩
        · by_contra unsettled
          cases (honest.unsettled (Bool.eq_false_iff.mpr unsettled)).symm.trans
            (agreed.trans verdict)
        · have either := ScreenState.verdict_eq_none_iff.mp unknown
          have still : pipeline.state.verdict = none := ScreenState.verdict_eq_none_iff.mpr either
          cases still.symm.trans verdict

/-- An amount that has not settled has no verdict. -/
theorem Honest.unsettled_next {action : ScreenAction}
    (honest : pipeline.Honest)
    (before : Before True (.publish action) pipeline)
    (unsettled : (pipeline.state.next action).settled = false) :
    (pipeline.state.next action).bounds = none := by
  cases action with
  | amountEdited text =>
      obtain ⟨typed, value⟩ := Option.isSome_iff_exists.mp before.1
      simp only [ScreenState.next, value]
  | conversionSettled derived => cases unsettled
  | boundsValidated bounds => exact Bool.noConfusion (before.1.symm.trans unsettled)
  | _ => exact honest.unsettled unsettled

/-- The check of an amount whose limits are known replaces the one that the state holds. -/
theorem rechecks_validationDuties {state : ScreenState} (known : state.verdict ≠ none)
    (rest : List Duty) : rechecks (validationDuties state ++ rest) = true := by
  unfold ScreenState.verdict at known
  simp only [validationDuties]
  split
  · next unknown =>
      exact (known (ScreenState.verdict_eq_none_iff.mpr (.inr unknown))).elim
  · next unchecked =>
      rw [unchecked] at known
      exact (known rfl).elim
  · rfl

/-- Performing a duty keeps the verdict right, or has it replaced at once. -/
theorem Honest.performs {duty : Duty} {rest : List Duty}
    (honest : pipeline.Honest)
    (head : pipeline.duties = duty :: rest)
    (before : Before True duty pipeline)
    (state : next.state = published pipeline.state duty)
    (duties : next.duties = added pipeline.state duty ++ rest) : next.Honest where
  unsettled := by
    rw [state]
    cases duty with
    | publish action => exact honest.unsettled_next before
    | _ => exact honest.unsettled
  selecting method member := by
    rw [duties] at member
    rcases List.mem_append.mp member with new | left
    · rcases publish_mem_added new with ⟨_, _, same⟩ | ⟨_, same⟩ | same <;> cases same
    · have selecting := honest.selecting method (head ▸ List.mem_cons_of_mem _ left)
      obtain ⟨_, rfl⟩ := List.cons.inj (head.symm.trans selecting)
      cases List.mem_singleton.mp left
  checked := by
    rw [state, duties]
    have calm : rechecks (duty :: rest) = false → pipeline.state.Agrees := fun none =>
      honest.agrees (head ▸ none)
    cases duty with
    | publish action =>
        by_cases selects : ∃ method, action = .methodSelected method
        · obtain ⟨method, rfl⟩ := selects
          exact honest.checked_select head
        · exact .inl (honest.agrees_next head before fun method same => selects ⟨method, same⟩)
    -- These three lead from a selection to the new check; every other duty finds the check agreed.
    | revalidate =>
        cases settled : pipeline.state.settled with
        | false => exact .inl (.inl (honest.unsettled settled))
        | true =>
            rcases honest.checked with agrees | ⟨_, _, known⟩
            · exact .inl agrees
            · refine .inr ⟨?_, settled, known⟩
              simp only [added, settled, if_true]
              rfl
    | validate =>
        rcases honest.checked with agrees | ⟨_, settled, known⟩
        · exact .inl agrees
        · exact .inr ⟨rechecks_validationDuties known rest, settled, known⟩
    | cancelBonus =>
        rcases honest.checked with agrees | ⟨pending, settled, known⟩
        · exact .inl agrees
        · refine .inr ⟨?_, settled, known⟩
          rw [head] at pending
          unfold rechecks at pending
          split at pending
          · next same => cases same
          · next same => cases same
          · next same => cases same; rfl
          · next same => cases same
          · cases pending
    | _ => exact .inl (calm rfl)

/-- Every step of the pipeline's own task keeps the verdict right, or has it replaced at once. -/
theorem Honest.ownStep {now : Instant} {sink : Sink TaskName}
    (honest : pipeline.Honest)
    (ready : (agreement True).Ready settings told pipeline)
    (step : OwnStep settings now sink pipeline next) : next.Honest := by
  have atRest : pipeline.duties = [] → pipeline.state.Agrees := fun free =>
    honest.agrees (by rw [free]; rfl)
  cases step with
  | stops _ _ | waits _ _ => exact ⟨honest.unsettled, honest.checked, honest.selecting⟩
  | input free _ =>
      refine ⟨honest.unsettled, .inl (atRest free), fun method member => ?_⟩
      rcases input_of_publish member with
        ⟨_, _, _, same⟩ | ⟨_, _, same⟩ | ⟨_, same⟩ | ⟨_, rfl, same⟩ <;> cases same
      rfl
  | deadline caughtUp _ =>
      refine ⟨honest.unsettled, .inl (atRest caughtUp.1), fun method member => ?_⟩
      cases List.mem_singleton.mp member
  | completion caughtUp _ =>
      refine ⟨honest.unsettled, .inl (atRest caughtUp.1), fun method member => ?_⟩
      rcases publish_mem_completionDuties member with ⟨_, _, same⟩ | ⟨_, _, _, _, same⟩ <;>
        cases same
  | tells head _ =>
      refine ⟨honest.unsettled, .inl (honest.agrees (by rw [head]; rfl)), fun method member => ?_⟩
      have selecting := honest.selecting method (head ▸ List.mem_cons_of_mem _ member)
      cases head.symm.trans selecting
  | performs head _ =>
      exact honest.performs head (ready.before head) (state_perform _ _) (duties_perform _ _)

/-- **The check that a state holds is always one of this state or about to be replaced.** -/
theorem honest_of_reaches
    (reached : Reaches (Pipeline.turn settings) (start settings) past pipeline)
    (inOrder : AmountInput.InOrder (sent past)) : pipeline.Honest := by
  induction reached with
  | start => exact honest_start
  | step earlier moved ih =>
      have inOrderEarlier := inOrder.sublist (sent_initial (List.suffix_cons _ _)).sublist
      have honest := ih inOrderEarlier
      rcases step_of_turn moved with ⟨now, sink, rfl, running, step⟩ | step
      · exact honest.ownStep (ready_of_inOrder earlier inOrderEarlier running) step
      · have background := background_of_backgroundStep step
        obtain ⟨unsettled, checked, selecting⟩ := honest
        rw [← background.state] at unsettled checked
        rw [← background.duties] at checked selecting
        exact ⟨unsettled, checked, selecting⟩

/-! ## What a published state promises -/

/-- A state that may be submitted holds an amount and a method that it has been checked with, if
its check is one of itself. -/
theorem withinBounds_of_verdict {state : ScreenState}
    (canSubmit : Gate.canSubmit state = true)
    (verdict : state.verdict = some .within) : state.WithinBounds := by
  obtain ⟨_, _, fiat, _, chosen⟩ := Gate.canSubmit_iff.mp canSubmit
  obtain ⟨value, positive⟩ := Option.ne_none_iff_exists'.mp fiat
  obtain ⟨method, selected⟩ := Option.ne_none_iff_exists'.mp chosen
  obtain ⟨amount, limits, same, known, within⟩ := ScreenState.verdict_eq_some_iff.mp verdict
  obtain rfl : value = amount :=
    Option.some.inj ((AmountValue.amount?_of_positive? positive).symm.trans same)
  rw [selected] at within
  obtain ⟨allowed, takes⟩ := Gate.check_eq_within_iff.mp within
  exact ⟨value, limits, method, AmountValue.eq_of_positive? positive, known, selected, allowed,
    takes⟩

/-- A state that may be submitted is within the limits if it agrees with its verdict. -/
theorem withinBounds_of_agrees {state : ScreenState}
    (canSubmit : Gate.canSubmit state = true)
    (agrees : state.Agrees) : state.WithinBounds := by
  have within := (Gate.canSubmit_iff.mp canSubmit).2.1
  rcases agrees with unchecked | agreed
  · cases unchecked.symm.trans within
  · exact withinBounds_of_verdict canSubmit (agreed.symm.trans within)

/-- What the selection of a method publishes, if it may be submitted, is within the limits of the
top-up; it is within those of the method only if the method takes the amount. -/
theorem withinBounds_select {method : PaymentMethod} {state : ScreenState}
    (agrees : state.Agrees)
    (canSubmit : Gate.canSubmit (state.next (.methodSelected method)) = true) :
    ∃ amount limits, state.entry.fiat = .value amount ∧ state.limits = some limits
      ∧ limits.Allow amount
      ∧ ((state.next (.methodSelected method)).WithinBounds ↔ method.Takes amount) := by
  obtain ⟨_, within, fiat, _, _⟩ := Gate.canSubmit_iff.mp canSubmit
  have within : state.bounds = some .within := within
  obtain ⟨value, positive⟩ := Option.ne_none_iff_exists'.mp fiat
  have holds : state.entry.fiat = .value value := AmountValue.eq_of_positive? positive
  rcases agrees with unchecked | agreed
  · cases unchecked.symm.trans within
  · obtain ⟨amount, limits, same, known, inside⟩ :=
      ScreenState.verdict_eq_some_iff.mp (agreed.symm.trans within)
    obtain rfl : value = amount := by
      rw [holds] at same
      exact Option.some.inj same
    have allowed : limits.Allow value := Gate.within_limits inside
    refine ⟨value, limits, holds, known, allowed, ?_, fun takes => ?_⟩
    · rintro ⟨other, _, chosen, same, _, selected, _, takes⟩
      obtain rfl := AmountValue.value.inj (holds.symm.trans same)
      obtain rfl := Option.some.inj selected
      exact takes
    · exact ⟨value, limits, method, holds, known, rfl, allowed, takes⟩

end Pipeline

namespace PipelineRun

variable {settings : PipelineSettings} {past : List (Moment PipelineRun Move)}
  {run : PipelineRun}

/-- **Where a published state invites a payment outside the limits.**  In every run in which the
methods are set up at most once and none is selected before that, every state that is published and
may be submitted holds a fiat amount within the limits of the top-up.  It is within the bounds of
the selected method as well, except in one case: the state is the one that the selection of a method
publishes, and this method does not take the amount.  At an await point of the pipeline that has
been put right: there every state that may be submitted is within all bounds. -/
theorem published_within_bounds
    (reached : Reaches (PipelineRun.move settings) (start settings) past run)
    (inOrder : AmountInput.InOrder (Pipeline.sent (turns past))) :
    (∀ moment ∈ turns past, ∀ action, Pipeline.Does (.publish action) moment →
        Gate.canSubmit (moment.before.state.next action) = true →
        (∃ amount limits, (moment.before.state.next action).entry.fiat = .value amount
            ∧ (moment.before.state.next action).limits = some limits ∧ limits.Allow amount)
          ∧ ((moment.before.state.next action).WithinBounds ↔
              ∀ method amount, action = .methodSelected method →
                moment.before.state.entry.fiat = .value amount → method.Takes amount))
      ∧ (run.pipeline.isAwaiting = true → Gate.canSubmit run.pipeline.state = true →
          run.pipeline.state.WithinBounds) := by
  have reachedTurns := reaches_turns reached
  refine ⟨?_, fun awaiting canSubmit => ?_⟩
  · rintro moment member action ⟨⟨now, sink, event⟩, rest, head⟩ canSubmit
    obtain ⟨earlier, after, suffix, reachedEarlier, moved⟩ := reachedTurns.exists_of_mem member
    have inOrderEarlier : AmountInput.InOrder (Pipeline.sent earlier) :=
      inOrder.sublist (Pipeline.sent_initial ((List.suffix_cons _ _).trans suffix)).sublist
    rw [event] at moved
    have ready := Pipeline.ready_of_inOrder reachedEarlier inOrderEarlier
      (Pipeline.ownStep_of_turn moved).1
    have honest := Pipeline.honest_of_reaches reachedEarlier inOrderEarlier
    by_cases selects : ∃ method, action = .methodSelected method
    · obtain ⟨method, rfl⟩ := selects
      obtain ⟨amount, limits, holds, known, allowed, within⟩ :=
        Pipeline.withinBounds_select (honest.agrees (by rw [head]; rfl)) canSubmit
      refine ⟨⟨amount, limits, holds, known, allowed⟩,
        within.trans ⟨fun takes => ?_, fun takes => ?_⟩⟩
      · intro other value same fiat
        cases same
        obtain rfl := AmountValue.value.inj (holds.symm.trans fiat)
        exact takes
      · exact takes method amount rfl holds
    · have agrees := honest.agrees_next head (ready.before head) fun method same =>
        selects ⟨method, same⟩
      have within := Pipeline.withinBounds_of_agrees canSubmit agrees
      obtain ⟨amount, limits, _, holds, known, _, allowed, _⟩ := within
      refine ⟨⟨amount, limits, holds, known, allowed⟩, iff_of_true
        (Pipeline.withinBounds_of_agrees canSubmit agrees) fun method _ same => ?_⟩
      exact (selects ⟨method, same⟩).elim
  · refine Pipeline.withinBounds_of_agrees canSubmit
      ((Pipeline.honest_of_reaches reachedTurns inOrder).agrees ?_)
    rcases Pipeline.head_of_isAwaiting awaiting with free | ⟨_, _, head⟩
    · rw [free]
      rfl
    · rw [head]
      rfl

/-! ## A run in which a method is selected that does not take the amount -/

/-- A method that takes no less than twenty. -/
def Sample.card : PaymentMethod where
  id := "credit_card"
  label := "Card"
  minAmount := some (whole 20)

/-- The inputs of this run: the card is selected after the ten euros have settled. -/
def Sample.selecting : List AmountInput :=
  [.setup [{ id := "paypal", label := "PayPal" }, card] ⟨"EUR", "€"⟩,
    .selectMethod { id := "paypal", label := "PayPal" }, .edit "10", .selectMethod card]

/-- Ten euros may be paid with PayPal when the card is selected, and its selection is about to be
taken over. -/
def Sample.selectingMoves : List Move :=
  .send (.setup [{ id := "paypal", label := "PayPal" }, card] ⟨"EUR", "€"⟩) :: moves.tail
    ++ [Move.send (.selectMethod card)] ++ own 1

/-- The run that these moves make. -/
def Sample.atSelection : PipelineRun := after (start {}) selectingMoves

/-- The card is selected, and the amount has not been checked again. -/
def Sample.selected : PipelineRun := after atSelection (own 1)

/-- The sample run comes to the selection of the card. -/
theorem Sample.reaches_selected :
    ∃ past, Reaches (PipelineRun.move {}) (start {}) past selected
      ∧ ⟨atSelection, .step .pipeline⟩ ∈ past ∧ Pipeline.sent (turns past) = selecting := by
  have ran : (start {}).moves {} selectingMoves = some atSelection := by rfl
  have selects : atSelection.move {} (.step .pipeline) = some selected := by rfl
  obtain ⟨past, reached, events⟩ := reaches_of_moves ran
  refine ⟨_, reached.step selects, List.mem_cons_self, ?_⟩
  rw [sent_turns, List.map_cons, events, List.reverse_cons, List.reverse_reverse]
  rfl

/-- The inputs of the sample run come in order. -/
theorem Sample.inOrder_selecting : AmountInput.InOrder selecting := by
  simp only [AmountInput.InOrder, selecting, List.pairwise_cons, List.mem_cons, List.not_mem_nil,
    or_false, forall_eq_or_imp, forall_eq, reduceCtorEq, IsEmpty.forall_iff, implies_true,
    List.Pairwise.nil, and_self]

/-- The step of the pipeline that publishes the selection of the card. -/
def Sample.selection : Moment Pipeline Pipeline.Turn :=
  ⟨atSelection.pipeline, .own atSelection.now atSelection.sink⟩

/-- At the moment of the selection the card becomes the method. -/
theorem Sample.does_selection :
    Pipeline.Does (.publish (.methodSelected card)) selection :=
  ⟨⟨_, _, rfl⟩, _, rfl⟩

/-- The selection is a turn of the sample run. -/
theorem Sample.selection_mem {past : List (Moment PipelineRun Move)}
    (member : ⟨atSelection, .step .pipeline⟩ ∈ past) : selection ∈ turns past :=
  List.mem_filterMap.mpr ⟨_, member, rfl⟩

theorem published_within_bounds_of_selection :
    ∃ past, Reaches (PipelineRun.move {}) (start {}) past Sample.selected
      ∧ AmountInput.InOrder (Pipeline.sent (turns past))
      ∧ (∃ amount limits,
          (Sample.selection.before.state.next (.methodSelected Sample.card)).entry.fiat
              = .value amount
            ∧ (Sample.selection.before.state.next (.methodSelected Sample.card)).limits
              = some limits
            ∧ limits.Allow amount)
      ∧ ∃ earlier, Reaches (PipelineRun.move {}) (start {}) earlier Sample.run
          ∧ Sample.run.pipeline.state.WithinBounds := by
  obtain ⟨past, reached, member, sent⟩ := Sample.reaches_selected
  have inOrder : AmountInput.InOrder (Pipeline.sent (turns past)) :=
    sent ▸ Sample.inOrder_selecting
  obtain ⟨earlier, reachedEarlier, inOrderEarlier⟩ := Sample.reaches_run
  refine ⟨past, reached, inOrder, ?_, earlier, reachedEarlier, ?_⟩
  · exact ((published_within_bounds reached inOrder).1 _ (Sample.selection_mem member) _
      Sample.does_selection rfl).1
  · exact (published_within_bounds reachedEarlier inOrderEarlier).2 rfl rfl

/-- The selection of the card publishes a state that may be submitted and holds less than the card
takes. -/
theorem selection_publishes_outside_bounds :
    ∃ past, Reaches (PipelineRun.move {}) (start {}) past Sample.selected
      ∧ AmountInput.InOrder (Pipeline.sent (turns past))
      ∧ ∃ moment ∈ turns past, ∃ action, Pipeline.Does (.publish action) moment
          ∧ Gate.canSubmit (moment.before.state.next action) = true
          ∧ ¬ (moment.before.state.next action).WithinBounds := by
  obtain ⟨past, reached, member, sent⟩ := Sample.reaches_selected
  refine ⟨past, reached, sent ▸ Sample.inOrder_selecting, Sample.selection,
    Sample.selection_mem member, _, Sample.does_selection, rfl, ?_⟩
  rintro ⟨amount, limits, method, holds, _, selected, _, takes, _⟩
  obtain rfl : Sample.card = method := Option.some.inj selected
  obtain rfl : Sample.whole 10 = amount := AmountValue.value.inj holds
  exact Bool.noConfusion (takes (Sample.whole 20) rfl)

end PipelineRun

end WalletTopUp
