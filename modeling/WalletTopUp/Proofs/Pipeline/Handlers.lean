import WalletTopUp.Proofs.Pipeline.Agreement

/-!
# The pipeline keeps its agreement

Each input, the deadline and each completion is followed through its duties, the check against the
limits first, since most of them end in it.
-/

namespace WalletTopUp

namespace Pipeline

variable {orderly : Prop} {settings : PipelineSettings} {told : List Effect} {pipeline : Pipeline}

/-- An effect other than enabling the submit control may be told whenever the verdict is kept. -/
theorem before_emit {effect : Effect} (other : effect ≠ .setSubmitEnabled true)
    (agreed : orderly → pipeline.state.bounds = none
      ∨ pipeline.state.bounds = pipeline.state.verdict) :
    Before orderly (.emit effect) pipeline :=
  ⟨fun same => (other same).elim, agreed⟩

/-- At rest the verdict on the amount is the one that the limits give, or there is none. -/
theorem AtRest.agreed (atRest : AtRest orderly told pipeline) (inOrder : orderly) :
    pipeline.state.bounds = none ∨ pipeline.state.bounds = pipeline.state.verdict := by
  cases settled : pipeline.state.settled with
  | false => exact .inl (atRest.unsettled settled).1
  | true => exact .inr (atRest.checked inOrder settled)

/-- At rest no deadline is set for an amount that has settled. -/
theorem AtRest.unarmed (atRest : AtRest orderly told pipeline)
    (settled : pipeline.state.settled = true) : pipeline.debouncer.deadline = none := by
  by_contra armed
  exact Bool.noConfusion ((atRest.armed armed).1.symm.trans settled)

/-- At rest no conversion is wanted for an amount that has settled. -/
theorem AtRest.notConverting (atRest : AtRest orderly told pipeline)
    (settled : pipeline.state.settled = true) : ¬ pipeline.Converting := fun converting =>
  Bool.noConfusion ((atRest.converting converting).symm.trans settled)

/-- Nothing is asked or known about a bonus before the check against the limits. -/
theorem AtRest.unrewarded (atRest : AtRest orderly told pipeline)
    (unchecked : pipeline.state.bounds = none) :
    ¬ pipeline.Forecasting ∧ pipeline.state.bonus = none := by
  have notWithin : ¬ (pipeline.Forecasting ∨ pipeline.state.bonus ≠ none) := by
    intro either
    have within := (atRest.rewarded either).1
    rw [unchecked] at within
    cases within
  obtain ⟨notForecasting, unrewarded⟩ := not_or.mp notWithin
  exact ⟨notForecasting, not_not.mp unrewarded⟩

/-- Only one effect tells whether the amount may be submitted. -/
theorem shown_cons {effect : Effect} (other : ∀ enabled, effect ≠ .setSubmitEnabled enabled) :
    shown (effect :: told) = shown told := by
  cases effect with
  | setSubmitEnabled enabled => exact (other enabled rfl).elim
  | _ => rfl

/-! ## The check against the limits -/

/-- What the check against the limits finds. -/
structure Checkable (orderly : Prop) (told : List Effect) (pipeline : Pipeline) : Prop where
  loading : pipeline.limits ≠ .idle → pipeline.state.limits = none
  settled : pipeline.state.settled = true
  unarmed : pipeline.debouncer.deadline = none
  notConverting : ¬ pipeline.Converting
  notForecasting : ¬ pipeline.Forecasting
  rewarded : pipeline.state.bonus ≠ none →
    pipeline.state.bounds = some .within ∧ pipeline.state.entry.fiat.positive? ≠ none
  unlimited : orderly → pipeline.state.verdict = none → pipeline.state.bounds = none
  /-- Only an amount that may become submittable may be shown as such. -/
  unshown : orderly → pipeline.state.verdict = none ∨ pipeline.state.entry.fiat.positive? = none →
    shown told = false

/-- An amount that has settled without a verdict can be checked, if nothing else is under way for
it. -/
theorem Checkable.of_unchecked
    (loading : pipeline.limits ≠ .idle → pipeline.state.limits = none)
    (settled : pipeline.state.settled = true)
    (unarmed : pipeline.debouncer.deadline = none)
    (notConverting : ¬ pipeline.Converting)
    (notForecasting : ¬ pipeline.Forecasting)
    (unrewarded : pipeline.state.bonus = none)
    (unchecked : pipeline.state.bounds = none)
    (unshown : orderly → shown told = false) : Checkable orderly told pipeline where
  loading := loading
  settled := settled
  unarmed := unarmed
  notConverting := notConverting
  notForecasting := notForecasting
  rewarded rewarded := (rewarded unrewarded).elim
  unlimited _ _ := unchecked
  unshown inOrder _ := unshown inOrder

/-- Without a verdict there is nothing to be done but to wait for the limits. -/
theorem Checkable.atRest (checkable : Checkable orderly told pipeline)
    (unlimited : pipeline.state.verdict = none) : AtRest orderly told pipeline where
  loading := checkable.loading
  unsettled unsettled := Bool.noConfusion (unsettled.symm.trans checkable.settled)
  armed armed := (armed checkable.unarmed).elim
  converting converting := (checkable.notConverting converting).elim
  rewarded either := checkable.rewarded (either.resolve_left checkable.notForecasting)
  checked inOrder _ := (checkable.unlimited inOrder unlimited).trans unlimited.symm
  shown inOrder _ := by
    have unchecked := checkable.unlimited inOrder unlimited
    rw [checkable.unshown inOrder (.inl unlimited),
      Gate.canSubmit_eq_false_of_unchecked unchecked]

/-- Asking for the limits leaves a pipeline at rest. -/
theorem AtRest.startLimits (atRest : AtRest orderly told pipeline) :
    AtRest orderly told pipeline.startLimits := by
  simp only [Pipeline.startLimits]
  split
  · next unknown _ =>
      exact ⟨fun _ => unknown, atRest.unsettled, atRest.armed, atRest.converting, atRest.rewarded,
        atRest.checked, atRest.shown⟩
  · exact atRest

/-- An amount within the limits gets a forecast, if it is positive. -/
theorem ready_within (checkable : Checkable orderly told pipeline)
    (verdict : pipeline.state.verdict = some .within) :
    (agreement orderly).Ready settings told
      { pipeline with
        state := pipeline.state.next (.boundsValidated .within)
        duties := [.emit (.mainValueValid true), .forecast] } := by
  refine .tell rfl (before_emit (by simp) fun _ => .inr verdict.symm) ?_
  refine .forecast rfl trivial (fun nothing => .done rfl ?_) (fun fiat positive => .done rfl ?_)
  · refine ⟨checkable.loading,
      fun unsettled => Bool.noConfusion (unsettled.symm.trans checkable.settled),
      fun armed => (armed checkable.unarmed).elim,
      fun converting => (checkable.notConverting converting).elim,
      fun either => ?_, fun _ _ => verdict.symm, fun inOrder _ => ?_⟩
    · exact ⟨rfl, (checkable.rewarded (either.resolve_left checkable.notForecasting)).2⟩
    · have silent := checkable.unshown inOrder (.inr nothing)
      exact silent.trans (Gate.canSubmit_eq_false_of_fiat nothing).symm
  · refine ⟨checkable.loading,
      fun unsettled => Bool.noConfusion (unsettled.symm.trans checkable.settled),
      fun armed => (armed checkable.unarmed).elim,
      fun converting => (checkable.notConverting converting).elim,
      fun _ => ⟨rfl, ?_⟩, fun _ _ => verdict.symm,
      fun _ idle => (idle (forecasting_startForecast fiat)).elim⟩
    change pipeline.state.entry.fiat.positive? ≠ none
    rw [show pipeline.state.entry.fiat.positive? = some fiat from positive]
    exact Option.some_ne_none _

/-- An amount outside the limits has no bonus and is not submitted. -/
theorem ready_outside {bounds : Bounds}
    (accounted : pipeline.Accounted)
    (checkable : Checkable orderly told pipeline)
    (outside : bounds ≠ .within)
    (verdict : pipeline.state.verdict = some bounds) :
    (agreement orderly).Ready settings told
      { pipeline with
        state := pipeline.state.next (.boundsValidated bounds)
        duties := [.cancelBonus, .publish (.bonusUpdated none), .emit .hideBonus,
          .emit (.mainValueValid false), .emit (.setSubmitEnabled false)] } := by
  refine .cancelBonus rfl trivial (.publish rfl trivial ?_)
  refine .tell rfl (before_emit (by simp) fun _ => .inr verdict.symm) ?_
  refine .tell rfl (before_emit (by simp) fun _ => .inr verdict.symm) ?_
  refine .tell rfl (before_emit (by simp) fun _ => .inr verdict.symm) (.done rfl ?_)
  refine ⟨checkable.loading,
    fun unsettled => Bool.noConfusion (unsettled.symm.trans checkable.settled),
    fun armed => (armed checkable.unarmed).elim,
    fun converting => (checkable.notConverting converting).elim, fun either => ?_,
    fun _ _ => verdict.symm, fun _ _ => ?_⟩
  · rcases either with forecasting | rewarded
    · exact (accounted.not_forecasting_cancel forecasting).elim
    · exact (rewarded rfl).elim
  · exact (Gate.canSubmit_eq_false_of_bounds fun within => outside (Option.some.inj within)).symm

/-- A warning about the limits says nothing about the submit control. -/
theorem boundsEffect_ne_setSubmitEnabled (bounds : Bounds) (limits : EffectiveLimits)
    (enabled : Bool) : boundsEffect bounds limits ≠ .setSubmitEnabled enabled := by
  unfold boundsEffect
  split
  · simp
  · split <;> simp

/-- A check keeps the contract. -/
theorem ready_validate
    (accounted : pipeline.Accounted)
    (checkable : Checkable orderly told pipeline)
    (duties : pipeline.duties = [.validate]) :
    (agreement orderly).Ready settings told pipeline := by
  refine .validate duties trivial ?_
  cases limits : pipeline.state.limits with
  | none =>
      have unlimited : pipeline.state.verdict = none :=
        ScreenState.verdict_eq_none_iff.mpr (.inr limits)
      simp only [validationDuties, limits, List.append_nil]
      refine .loadLimits rfl trivial (.done ?_ (AtRest.startLimits ?_))
      · simp only [Pipeline.startLimits]
        split <;> rfl
      · obtain ⟨loading, unsettled, armed, converting, rewarded, checked, shown⟩ :=
          checkable.atRest unlimited
        exact ⟨loading, unsettled, armed, converting, rewarded, checked, shown⟩
  | some known =>
      cases check : Gate.check pipeline.state with
      | none =>
          have unlimited : pipeline.state.verdict = none := by
            rw [ScreenState.verdict, check, Option.map_none]
          simp only [validationDuties, limits, check, List.append_nil]
          obtain ⟨loading, unsettled, armed, converting, rewarded, checked, shown⟩ :=
            checkable.atRest unlimited
          exact .done rfl ⟨loading, unsettled, armed, converting, rewarded, checked, shown⟩
      | some pair =>
          obtain ⟨bounds, effective⟩ := pair
          have verdict : pipeline.state.verdict = some bounds := by
            rw [ScreenState.verdict, check, Option.map_some]
          simp only [validationDuties, limits, check, List.append_nil]
          refine .publish rfl ⟨checkable.settled, verdict⟩ ?_
          have other := boundsEffect_ne_setSubmitEnabled bounds effective
          refine .tell rfl (before_emit (other true) fun _ => .inr verdict.symm) ?_
          have heard : Checkable orderly (boundsEffect bounds effective :: told) pipeline :=
            { checkable with
              unshown := fun inOrder either =>
                (shown_cons other).trans (checkable.unshown inOrder either) }
          split
          · next within =>
              subst within
              have ready : (agreement orderly).Ready settings _ _ := ready_within heard verdict
              exact ready
          · next outside =>
              have ready : (agreement orderly).Ready settings _ _ :=
                ready_outside accounted heard outside verdict
              exact ready

/-! ## Inputs -/

/-- The setup keeps the contract. -/
theorem ready_setup {methods : List PaymentMethod} {currency : LocalCurrency}
    {inputs : List AmountInput}
    (atRest : AtRest orderly told pipeline)
    (admits : Admits orderly (.setup methods currency) pipeline) :
    (agreement orderly).Ready settings told
      { pipeline with inputs, duties := inputDuties (.setup methods currency) } := by
  refine .publish rfl admits (.loadLimits rfl trivial (.done ?_ (AtRest.startLimits ?_)))
  · simp only [Pipeline.startLimits]
    split <;> rfl
  · refine ⟨atRest.loading, atRest.unsettled, atRest.armed, atRest.converting, atRest.rewarded,
      fun inOrder settled => ?_, fun inOrder idle => ?_⟩
    -- The methods come before any selection, so neither verdict nor submittability sees them.
    · have unselected : pipeline.state.selectedMethod = none := admits inOrder
      have checked := atRest.checked inOrder settled
      simpa only [ScreenState.verdict, Gate.check, ScreenState.next, ScreenState.stillOffered,
        unselected] using checked
    · have unselected : pipeline.state.selectedMethod = none := admits inOrder
      have shown := atRest.shown inOrder idle
      simpa only [Gate.canSubmit, Gate.isSubmittable, ScreenState.next, ScreenState.stillOffered,
        unselected] using shown

/-- A typed text keeps the contract, whether it is taken over or rejected. -/
theorem ready_edit {text : String} {inputs : List AmountInput}
    (accounted : pipeline.Accounted)
    (atRest : AtRest orderly told pipeline) :
    (agreement orderly).Ready settings told
      { pipeline with inputs, duties := inputDuties (.edit text) } := by
  cases value : AmountValue.ofText? text with
  | none =>
      simp only [inputDuties, value]
      exact .done rfl ⟨atRest.loading, atRest.unsettled, atRest.armed, atRest.converting,
        atRest.rewarded, atRest.checked, atRest.shown⟩
  | some typed =>
      simp only [inputDuties, value]
      refine .cancelConversion rfl trivial (.cancelBonus rfl trivial ?_)
      have notConverting := accounted.not_converting_cancel
      have notForecasting := accounted.not_forecasting_cancel
      refine .publish rfl ⟨Option.isSome_iff_exists.mpr ⟨typed, value⟩, notConverting,
        notForecasting⟩ ?_
      refine .tell rfl (before_emit (by simp) fun _ => .inl ?_) (.arm rfl trivial fun now => ?_)
      · simp only [ScreenState.next, value]
      · refine .done rfl ⟨?_, ?_, ?_, ?_, ?_, ?_, ?_⟩ <;> simp only [ScreenState.next, value]
        · exact atRest.loading
        · exact fun _ => ⟨trivial, trivial, notForecasting⟩
        · exact fun _ => ⟨trivial, notConverting⟩
        · exact fun _ => trivial
        · exact fun either => either.elim (fun still => (notForecasting still).elim)
            fun rewarded => (rewarded rfl).elim
        · exact fun _ settled => by cases settled
        · exact fun _ _ => (Gate.canSubmit_eq_false_of_unsettled rfl).symm

/-- A switch of sides keeps the contract, before and after the amount has settled. -/
theorem ready_switchCurrency {inputs : List AmountInput}
    (accounted : pipeline.Accounted)
    (atRest : AtRest orderly told pipeline) :
    (agreement orderly).Ready settings told
      { pipeline with inputs, duties := inputDuties .switchCurrency } := by
  have announced : Duty.rearm ∈ inputDuties .switchCurrency := by simp [inputDuties]
  refine .publish rfl ⟨announced, atRest.converting⟩ (.announceSide rfl trivial ?_)
  refine .tell rfl (before_emit (by simp) atRest.agreed) (.rearm rfl trivial ?_ ?_)
  · intro _
    exact .done rfl ⟨atRest.loading, atRest.unsettled, atRest.armed, atRest.converting,
      atRest.rewarded, atRest.checked, atRest.shown⟩
  · intro unsettled
    refine .cancelConversion rfl trivial (.arm rfl trivial fun now => .done rfl ?_)
    have notConverting := accounted.not_converting_cancel
    exact ⟨atRest.loading, atRest.unsettled, fun _ => ⟨unsettled, notConverting⟩,
      fun _ => unsettled, atRest.rewarded, atRest.checked, atRest.shown⟩

/-- The choice of a method keeps the contract. -/
theorem ready_selectMethod {method : PaymentMethod} {inputs : List AmountInput}
    (accounted : pipeline.Accounted)
    (atRest : AtRest orderly told pipeline) :
    (agreement orderly).Ready settings told
      { pipeline with inputs, duties := inputDuties (.selectMethod method) } := by
  refine .publish rfl trivial (.revalidate rfl trivial ?_ ?_)
  · intro settled
    refine .cancelBonus rfl trivial (ready_validate ?_ ?_ rfl)
    · exact ⟨accounted.conversions, accounted.bonuses.cancel, accounted.limits⟩
    -- The verdict may change with the method, but not whether there is one.
    have unlimited : orderly →
        (pipeline.state.next (.methodSelected method)).verdict = none →
          pipeline.state.bounds = none := by
      intro inOrder nothing
      have unknown := ScreenState.verdict_eq_none_iff.mp nothing
      rw [atRest.checked inOrder settled]
      exact ScreenState.verdict_eq_none_iff.mpr unknown
    have unshown : orderly → pipeline.state.bounds = none
        ∨ pipeline.state.entry.fiat.positive? = none → shown told = false := by
      intro inOrder either
      have idle : ¬ pipeline.Forecasting := by
        intro forecasting
        obtain ⟨within, positive⟩ := atRest.rewarded (.inl forecasting)
        rcases either with unchecked | nothing
        · rw [unchecked] at within
          cases within
        · exact positive nothing
      rw [atRest.shown inOrder idle]
      rcases either with unchecked | nothing
      · exact Gate.canSubmit_eq_false_of_unchecked unchecked
      · exact Gate.canSubmit_eq_false_of_fiat nothing
    exact ⟨atRest.loading, settled, atRest.unarmed settled, atRest.notConverting settled,
      accounted.not_forecasting_cancel, fun rewarded => atRest.rewarded (.inr rewarded), unlimited,
      fun inOrder either => unshown inOrder (either.imp_left (unlimited inOrder))⟩
  · intro unsettled
    obtain ⟨unchecked, unrewarded, notForecasting⟩ := atRest.unsettled unsettled
    refine .done rfl ⟨atRest.loading, atRest.unsettled, atRest.armed, atRest.converting,
      atRest.rewarded, fun _ settled => Bool.noConfusion (unsettled.symm.trans settled),
      fun inOrder idle => ?_⟩
    rw [atRest.shown inOrder idle, Gate.canSubmit_eq_false_of_unsettled unsettled]
    exact Gate.canSubmit_eq_false_of_unsettled unsettled

/-! ## Deriving the other side -/

/-- The derived amount is taken over and checked against the limits. -/
theorem ready_settle {derived : AmountValue}
    (accounted : pipeline.Accounted)
    (loading : pipeline.limits ≠ .idle → pipeline.state.limits = none)
    (awaits : pipeline.AwaitsDerived)
    (unshown : orderly → shown told = false)
    (duties : pipeline.duties = [.settle derived]) :
    (agreement orderly).Ready settings told pipeline := by
  refine .settle duties awaits (.publish rfl ?_ (.announceAmounts rfl trivial ?_))
  · exact ⟨awaits.unsettled, awaits.unchecked, awaits.unrewarded, awaits.unarmed,
      awaits.notConverting, awaits.notForecasting⟩
  · refine .tell rfl (before_emit (by simp) fun _ => .inl awaits.unchecked) ?_
    refine ready_validate ?_ ?_ rfl
    · exact ⟨accounted.conversions, accounted.bonuses, accounted.limits⟩
    · exact .of_unchecked loading rfl awaits.unarmed awaits.notConverting awaits.notForecasting
        awaits.unrewarded awaits.unchecked unshown

/-- The end of the quiet period keeps the contract. -/
theorem ready_deadline
    (accounted : pipeline.Accounted)
    (atRest : AtRest orderly told pipeline)
    (armed : pipeline.debouncer.deadline ≠ none) :
    (agreement orderly).Ready settings told
      { pipeline with debouncer := pipeline.debouncer.disarm, duties := [.convert] } := by
  obtain ⟨unsettled, notConverting⟩ := atRest.armed armed
  obtain ⟨unchecked, unrewarded, notForecasting⟩ := atRest.unsettled unsettled
  have unshown : orderly → shown told = false := fun inOrder =>
    (atRest.shown inOrder notForecasting).trans (Gate.canSubmit_eq_false_of_unsettled unsettled)
  refine .convert rfl ⟨unsettled, unchecked, unrewarded, rfl, notConverting, notForecasting⟩
    (fun derived => ready_settle ?_ atRest.loading ?_ unshown rfl) (fun amount => .done rfl ?_)
  · exact ⟨accounted.conversions, accounted.bonuses, accounted.limits⟩
  · exact ⟨unsettled, unchecked, unrewarded, rfl, notConverting, notForecasting⟩
  · exact ⟨atRest.loading, atRest.unsettled, fun set => (set rfl).elim, fun _ => unsettled,
      atRest.rewarded, atRest.checked, atRest.shown⟩

/-! ## Completions -/

/-- Taking a completion that does not report the latest conversion leaves that one as it was. -/
theorem converting_of_taking {completion : Completion} {rest : List Completion}
    (queued : pipeline.completions = completion :: rest)
    (converting : (pipeline.taking completion rest).Converting) : pipeline.Converting := by
  rcases converting_iff.mp converting with current | reported
  · exact converting_iff.mpr (.inl current)
  · refine converting_iff.mpr (.inr ?_)
    rw [reportedConversions, queued]
    exact (List.Sublist.filterMap _ (List.sublist_cons_self _ _)).subset reported

/-- A forecast that is wanted after a report has been taken was wanted before. -/
theorem forecasting_of_taking {completion : Completion} {rest : List Completion}
    (queued : pipeline.completions = completion :: rest)
    (forecasting : (pipeline.taking completion rest).Forecasting) : pipeline.Forecasting := by
  rcases forecasting_iff.mp forecasting with current | reported
  · exact forecasting_iff.mpr (.inl current)
  · refine forecasting_iff.mpr (.inr ?_)
    rw [reportedBonuses, queued]
    exact (List.Sublist.filterMap _ (List.sublist_cons_self _ _)).subset reported

/-- Only the report of the latest forecast ends it. -/
theorem forecasting_taking {completion : Completion} {rest : List Completion}
    (queued : pipeline.completions = completion :: rest)
    (other : completion.bonus? ≠ some pipeline.bonuses.ticket)
    (forecasting : pipeline.Forecasting) : (pipeline.taking completion rest).Forecasting := by
  rcases forecasting_iff.mp forecasting with current | reported
  · exact forecasting_iff.mpr (.inl current)
  · refine forecasting_iff.mpr (.inr ?_)
    rw [reportedBonuses, queued] at reported
    obtain ⟨report, member, ticket⟩ := List.mem_filterMap.mp reported
    rcases List.mem_cons.mp member with rfl | later
    · exact (other ticket).elim
    · exact List.mem_filterMap.mpr ⟨report, later, ticket⟩

/-- A completion that ends nothing leaves the pipeline at rest. -/
theorem AtRest.taking {completion : Completion} {rest : List Completion}
    (atRest : AtRest orderly told pipeline)
    (queued : pipeline.completions = completion :: rest)
    (other : completion.bonus? ≠ some pipeline.bonuses.ticket) :
    AtRest orderly told (pipeline.taking completion rest) := by
  refine ⟨fun busy => atRest.loading fun idle => busy ?_, fun unsettled => ?_, fun armed => ?_,
    fun converting => atRest.converting (converting_of_taking queued converting), fun either => ?_,
    atRest.checked, fun inOrder idle => ?_⟩
  · simp only [Pipeline.taking, idle]
    split <;> rfl
  · obtain ⟨unchecked, unrewarded, notForecasting⟩ := atRest.unsettled unsettled
    exact ⟨unchecked, unrewarded, fun still =>
      notForecasting (forecasting_of_taking queued still)⟩
  · obtain ⟨unsettled, notConverting⟩ := atRest.armed armed
    exact ⟨unsettled, fun still => notConverting (converting_of_taking queued still)⟩
  · exact atRest.rewarded (either.imp_left (forecasting_of_taking queued))
  · exact atRest.shown inOrder fun still => idle (forecasting_taking queued other still)

/-- The report of a conversion keeps the contract, whether it is still wanted or not. -/
theorem ready_converted {ticket : Ticket} {derived : AmountValue} {rest : List Completion}
    (accounted : pipeline.Accounted)
    (atRest : AtRest orderly told pipeline)
    (running : pipeline.running = true)
    (queued : pipeline.completions = .converted ticket derived :: rest) :
    (agreement orderly).Ready settings told
      (pipeline.taking (.converted ticket derived) rest) := by
  have atRestAfter := atRest.taking queued (by simp [Completion.bonus?])
  cases current : pipeline.conversions.isCurrent ticket with
  | false =>
      refine .done ?_ atRestAfter
      simp only [Pipeline.taking, completionDuties, current, Bool.false_eq_true, if_false]
  | true =>
      have latest : ticket = pipeline.conversions.ticket := SwitchLatest.isCurrent_iff.mp current
      have reported : pipeline.reportedConversions =
          ticket :: rest.filterMap Completion.conversion? := by
        rw [reportedConversions, queued]
        rfl
      have converting : pipeline.Converting :=
        converting_iff.mpr (.inr (by rw [reported, latest]; exact List.mem_cons_self))
      have unsettled := atRest.converting converting
      obtain ⟨unchecked, unrewarded, notForecasting⟩ := atRestAfter.unsettled unsettled
      have unarmed : pipeline.debouncer.deadline = none := by
        by_contra armed
        exact (atRest.armed armed).2 converting
      have notConverting : ¬ (pipeline.taking (.converted ticket derived) rest).Converting := by
        have accounts := accounted.conversions
        rw [reported, latest] at accounts
        exact accounts.not_outstanding_take
      have duties : (pipeline.taking (.converted ticket derived) rest).duties =
          [.settle derived] := by
        simp only [Pipeline.taking, completionDuties, current, if_true]
      refine ready_settle (accounted.taking queued running) atRestAfter.loading ?_ ?_ duties
      · exact ⟨unsettled, unchecked, unrewarded, unarmed, notConverting, notForecasting⟩
      · exact fun inOrder => (atRestAfter.shown inOrder notForecasting).trans
          (Gate.canSubmit_eq_false_of_unsettled unsettled)

/-- The report of the limits keeps the contract, whether there are any or not. -/
theorem ready_limitsLoaded {limits : Option TopUpLimits} {rest : List Completion}
    (accounted : pipeline.Accounted)
    (atRest : AtRest orderly told pipeline)
    (running : pipeline.running = true)
    (queued : pipeline.completions = .limitsLoaded limits :: rest) :
    (agreement orderly).Ready settings told (pipeline.taking (.limitsLoaded limits) rest) := by
  have atRestAfter := atRest.taking queued (by simp [Completion.bonus?])
  cases limits with
  | none => exact .done rfl atRestAfter
  | some loaded =>
      have unknown : pipeline.state.limits = none := by
        refine atRest.loading fun idle => ?_
        have count := accounted.limits running
        rw [queued, idle, List.countP_cons_of_pos rfl] at count
        exact Nat.succ_ne_zero _ count
      have unlimited : pipeline.state.verdict = none :=
        ScreenState.verdict_eq_none_iff.mpr (.inr unknown)
      refine .publish rfl unknown (.validateWaiting rfl trivial ?_ ?_)
      · intro settled unchecked
        obtain ⟨notForecasting, unrewarded⟩ := atRestAfter.unrewarded unchecked
        refine ready_validate ?_ (.of_unchecked (fun busy => (busy rfl).elim) settled ?_ ?_ ?_ ?_
          unchecked fun inOrder => ?_) rfl
        · have taken := accounted.taking queued running
          exact ⟨taken.conversions, taken.bonuses, taken.limits⟩
        · exact atRestAfter.unarmed settled
        · exact atRestAfter.notConverting settled
        · exact notForecasting
        · exact unrewarded
        · exact (atRestAfter.shown inOrder notForecasting).trans
            (Gate.canSubmit_eq_false_of_unchecked unchecked)
      · intro otherwise
        refine .done rfl ⟨fun busy => (busy rfl).elim, atRestAfter.unsettled, atRestAfter.armed,
          atRestAfter.converting, atRestAfter.rewarded, fun inOrder settled => ?_,
          atRestAfter.shown⟩
        have unchecked := (atRest.checked inOrder settled).trans unlimited
        rcases otherwise with unsettled | checked
        · exact Bool.noConfusion (unsettled.symm.trans settled)
        · exact (checked unchecked).elim

/-- The report of a forecast keeps the contract, whether it is still wanted or not. -/
theorem ready_bonusLoaded {ticket : Ticket} {bonus : Option BonusForecast}
    {rest : List Completion}
    (accounted : pipeline.Accounted)
    (atRest : AtRest orderly told pipeline)
    (queued : pipeline.completions = .bonusLoaded ticket bonus :: rest) :
    (agreement orderly).Ready settings told
      (pipeline.taking (.bonusLoaded ticket bonus) rest) := by
  cases current : pipeline.bonuses.isCurrent ticket with
  | false =>
      refine .done ?_ (atRest.taking queued fun same => ?_)
      · simp only [Pipeline.taking, completionDuties, current, Bool.false_eq_true, if_false]
      · rw [SwitchLatest.isCurrent_iff.mpr (Option.some.inj same)] at current
        cases current
  | true =>
      have latest : ticket = pipeline.bonuses.ticket := SwitchLatest.isCurrent_iff.mp current
      have reported : pipeline.reportedBonuses = ticket :: rest.filterMap Completion.bonus? := by
        rw [reportedBonuses, queued]
        rfl
      have forecasting : pipeline.Forecasting :=
        forecasting_iff.mpr (.inr (by rw [reported, latest]; exact List.mem_cons_self))
      obtain ⟨within, positive⟩ := atRest.rewarded (.inl forecasting)
      have notForecasting : ¬ (pipeline.taking (.bonusLoaded ticket bonus) rest).Forecasting := by
        have accounts := accounted.bonuses
        rw [reported, latest] at accounts
        exact accounts.not_outstanding_take
      have duties : (pipeline.taking (.bonusLoaded ticket bonus) rest).duties =
          [.emit (bonusEffect bonus), .publish (.bonusUpdated bonus), .announceSubmit] := by
        simp only [Pipeline.taking, completionDuties, current, if_true]
      have other : bonusEffect bonus ≠ .setSubmitEnabled true := by
        unfold bonusEffect
        split
        · simp
        · split <;> simp
      have settled : pipeline.state.settled = true := by
        by_contra unsettled
        exact (atRest.unsettled (Bool.eq_false_iff.mpr unsettled)).2.2 forecasting
      refine .tell duties (before_emit other atRest.agreed) (.publish rfl trivial ?_)
      refine .announceSubmit rfl trivial (.tell rfl ⟨fun may => ?_, ?_⟩ (.done rfl ?_))
      · exact Effect.setSubmitEnabled.inj may
      · exact fun inOrder => atRest.agreed inOrder
      · refine ⟨fun busy => atRest.loading busy, fun unsettled => ?_, fun armed => ?_,
          fun converting => ?_, fun _ => ⟨within, positive⟩, atRest.checked, fun _ _ => rfl⟩
        · exact Bool.noConfusion (settled.symm.trans unsettled)
        · exact (armed (atRest.unarmed settled)).elim
        · exact (atRest.notConverting settled (converting_of_taking queued converting)).elim

/-- **Every run keeps the agreement.** -/
theorem agreement_kept : (agreement orderly).Kept settings where
  start := by
    have notConverting : ¬ (start settings).Converting := by
      intro converting
      cases converting
    have notForecasting : ¬ (start settings).Forecasting := by
      intro forecasting
      cases forecasting
    exact ⟨fun _ => rfl, fun _ => ⟨rfl, rfl, notForecasting⟩, fun armed => (armed rfl).elim,
      fun _ => rfl, fun either => either.elim (fun still => (notForecasting still).elim)
        fun rewarded => (rewarded rfl).elim, fun _ same => (by cases same), fun _ _ => rfl⟩
  input {_ _ input _} accounted atRest admits := by
    cases input with
    | setup methods currency => exact ready_setup atRest admits
    | edit text => exact ready_edit accounted atRest
    | switchCurrency => exact ready_switchCurrency accounted atRest
    | selectMethod method => exact ready_selectMethod accounted atRest
  deadline accounted atRest armed := ready_deadline accounted atRest armed
  completion {_ _ completion _} accounted atRest running queued := by
    cases completion with
    | converted ticket derived => exact ready_converted accounted atRest running queued
    | limitsLoaded limits => exact ready_limitsLoaded accounted atRest running queued
    | bonusLoaded ticket bonus => exact ready_bonusLoaded accounted atRest queued

end Pipeline

end WalletTopUp
