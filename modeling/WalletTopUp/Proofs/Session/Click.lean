import WalletTopUp.Proofs.Pipeline.Outlook
import WalletTopUp.Proofs.Session.Legitimacy

/-!
# What a click pays

A click on the submit control is judged by the state that the pipeline has published, and inputs
that the session has handed over may still be waiting then.  The order that is made pays what the
user has entered last exactly when no amount that has been typed is left to be taken over, the
method selected last is the order's, and the amount is within the limits of that method
(`SessionRun.pays_iff_nothing_ahead`).  A click that follows an edit closely pays the earlier amount
(`SessionRun.click_overtakes_edit`).
-/

namespace WalletTopUp

/-- An order pays what a state shows, and the state may be submitted. -/
structure PaymentOrder.Pays (order : PaymentOrder) (state : ScreenState) : Prop where
  canSubmit : Gate.canSubmit state = true
  method : state.selectedMethod.map PaymentMethod.id = some order.method
  value : state.entry.fiat.positive? = some order.value
  currency : state.entry.currency.code = order.currency

namespace SessionRun

variable {settings : SessionSettings} {run : SessionRun} {past : History} {order : PaymentOrder}

/-- In the next step of its own task the session takes a click on the submit control and makes an
order. -/
structure AcceptsClick (settings : SessionSettings) (order : PaymentOrder) (run : SessionRun) :
    Prop where
  isOpen : run.IsOpen
  free : run.session.duties = []
  notLoaded : ∀ result, run.session.setup ≠ .loaded result
  clicked : ∃ submission rest, run.session.events = .nextClicked submission :: rest
    ∧ run.session.eventDuties settings run.pipeline.state (.nextClicked submission)
      = [.emit .showLoading, .pay (.topUp order)]

theorem AcceptsClick.pays (accepts : AcceptsClick settings order run) :
    order.Pays run.pipeline.state := by
  obtain ⟨submission, rest, _, asks⟩ := accepts.clicked
  have member : .pay (.topUp order) ∈ run.session.eventDuties settings run.pipeline.state
      (.nextClicked submission) := by
    rw [asks]
    exact List.mem_cons_of_mem _ List.mem_cons_self
  obtain ⟨_, _, canSubmit, method, _, selected, made⟩ :=
    placesOrder_of_mem_eventDuties accepts.isOpen member
  obtain ⟨value, fiat, rfl⟩ := Option.map_eq_some_iff.mp made
  exact ⟨canSubmit, congrArg (Option.map PaymentMethod.id) selected, fiat, rfl⟩

/-- **What a click pays.**  In every run of a screen, however its tasks are interleaved: when a
click is accepted, the inputs that are waiting then can be handled, and the order pays what the
state shows once they have been, exactly when no amount that has been typed is left to be taken
over, the method that will be selected is the order's, and the amount is within the limits of that
method. -/
theorem pays_iff_nothing_ahead
    (reached : Reaches (SessionRun.move settings) (start settings) past run)
    (accepts : AcceptsClick settings order run) :
    (∃ due, Pipeline.CatchesUp settings.pipeline run.pipeline due)
      ∧ ∀ due, Pipeline.CatchesUp settings.pipeline run.pipeline due →
        (order.Pays due.state ↔
          ¬ run.pipeline.EditAhead
            ∧ ∃ method, run.pipeline.methodAhead = some method ∧ method.id = order.method
              ∧ ({ run.pipeline.state with selectedMethod := some method } : ScreenState).verdict
                = some .within) := by
  have running := running_of_isOpen reached accepts.isOpen
  refine ⟨Pipeline.exists_catchesUp settings.pipeline running, fun due catchesUp => ?_⟩
  have reachedTurns := reaches_turns reached
  have inOrder := (disciplined_of_reaches reached).sent.inOrder
  obtain ⟨canSubmit, _, value, currency⟩ := accepts.pays
  have led := Pipeline.led_of_catchesUp
    (Pipeline.steady_of_canSubmit reachedTurns inOrder running canSubmit) catchesUp
  have chosen : due.state.selectedMethod = run.pipeline.methodAhead := led.selectedMethod
  have still := Pipeline.canSubmit_of_catchesUp_iff reachedTurns inOrder running canSubmit catchesUp
  constructor
  · intro pays
    obtain ⟨noEdit, some, within⟩ := still.mp pays.canSubmit
    obtain ⟨method, ahead⟩ := Option.ne_none_iff_exists'.mp some
    have named := pays.method
    rw [chosen, ahead] at named
    exact ⟨noEdit, method, ahead, Option.some.inj named, ahead ▸ within⟩
  · rintro ⟨noEdit, method, ahead, named, within⟩
    have fiat := (led.amounts (Pipeline.not_editAhead_iff.mp noEdit)).1
    refine ⟨still.mpr ⟨noEdit, ahead ▸ Option.some_ne_none _, ahead.symm ▸ within⟩, ?_, ?_, ?_⟩
    · rw [chosen, ahead, Option.map_some, named]
    · rw [fiat]
      exact value
    · rw [led.currency]
      exact currency

/-! ## A click that follows closely -/

/-- An event and a click come together, and the session hands the event's input over. -/
def Sample.clicking (event : SessionEvent) : List Move :=
  [Move.send event, .send (.nextClicked submission)] ++ steps .session 2

/-- Twenty euros are typed instead of ten, and the submit control is clicked at once. -/
def Sample.hasty : SessionRun := after ready (clicking (.amountChanged "20"))

/-- The sides are switched, and the submit control is clicked at once. -/
def Sample.switching : SessionRun := after ready (clicking .changeCurrencyClicked)

/-- The order that is made of ten euros. -/
def Sample.tenEuros : PaymentOrder where
  method := "paypal"
  payment := .null
  returnUrl := "wallet://return"
  value := PipelineRun.Sample.whole 10
  currency := "EUR"
  package := ({} : SessionSettings).pipeline.package
  transactionType := "TOPUP"

/-- A pipeline after a number of its own steps, as long as it has something left to do. -/
def Sample.caughtUp (pipeline : Pipeline) (count : Nat) : Pipeline :=
  ((List.replicate count (.own 700 {})).foldlM (Pipeline.catchUp {}) pipeline).getD pipeline

theorem Sample.catchesUp {pipeline due : Pipeline} {count : Nat}
    (ran : (List.replicate count (.own 700 {})).foldlM (Pipeline.catchUp {}) pipeline = some due)
    (caughtUp : due.IsCaughtUp) : Pipeline.CatchesUp {} pipeline due := by
  obtain ⟨_, reached, _⟩ := Reaches.of_foldlM ran
  exact ⟨⟨_, reached⟩, caughtUp⟩

/-- The order pays ten euros although twenty were typed before the click, even if the tasks give way
to each other at their await points only. -/
theorem click_overtakes_edit :
    (∃ past, Reaches (SessionRun.awaitMove {}) (start {}) past Sample.hasty)
      ∧ AcceptsClick {} Sample.tenEuros Sample.hasty
      ∧ Sample.hasty.pipeline.inputs = [.edit "20"]
      ∧ Pipeline.CatchesUp {} Sample.hasty.pipeline (Sample.caughtUp Sample.hasty.pipeline 6)
      ∧ (Sample.caughtUp Sample.hasty.pipeline 6).state.entry.fiat.positive?
        = some (PipelineRun.Sample.whole 20)
      ∧ ¬ Sample.tenEuros.Pays (Sample.caughtUp Sample.hasty.pipeline 6).state := by
  have reached : ∃ past, Reaches (SessionRun.awaitMove {}) (start {}) past Sample.hasty :=
    Sample.reaches_after Sample.reaches_ready (by rfl)
  have ran : (List.replicate 6 (.own 700 {})).foldlM (Pipeline.catchUp {}) Sample.hasty.pipeline
      = some (Sample.caughtUp Sample.hasty.pipeline 6) := by rfl
  have unsettled : (Sample.caughtUp Sample.hasty.pipeline 6).state.settled = false := by rfl
  have setUp : Sample.hasty.session.setup = .over := by rfl
  refine ⟨reached, ⟨⟨rfl, rfl⟩, rfl, ?_, ?_⟩, rfl, ?_, rfl, fun pays => ?_⟩
  · intro result same
    cases setUp.symm.trans same
  · exact ⟨Sample.submission, [], rfl, rfl⟩
  · exact Sample.catchesUp ran ⟨rfl, rfl⟩
  · cases (Gate.canSubmit_eq_false_of_unsettled unsettled).symm.trans pays.canSubmit

theorem pays_iff_nothing_ahead_of_switching :
    ∃ past, Reaches (SessionRun.move {}) (start {}) past Sample.switching
      ∧ AcceptsClick {} Sample.tenEuros Sample.switching
      ∧ Pipeline.CatchesUp {} Sample.switching.pipeline
          (Sample.caughtUp Sample.switching.pipeline 5)
      ∧ Sample.tenEuros.Pays (Sample.caughtUp Sample.switching.pipeline 5).state := by
  have ran : (List.replicate 5 (.own 700 {})).foldlM (Pipeline.catchUp {})
      Sample.switching.pipeline = some (Sample.caughtUp Sample.switching.pipeline 5) := by rfl
  have catchesUp := Sample.catchesUp ran ⟨rfl, rfl⟩
  have setUp : Sample.switching.session.setup = .over := by rfl
  have accepts : AcceptsClick {} Sample.tenEuros Sample.switching := by
    refine ⟨⟨rfl, rfl⟩, rfl, ?_, Sample.submission, [], rfl, rfl⟩
    intro result same
    cases setUp.symm.trans same
  obtain ⟨past, reachedAwaiting⟩ :
      ∃ past, Reaches (SessionRun.awaitMove {}) (start {}) past Sample.switching :=
    Sample.reaches_after Sample.reaches_ready (by rfl)
  have reached := reaches_of_awaitMove reachedAwaiting
  refine ⟨past, reached, accepts, catchesUp, ?_⟩
  refine ((pays_iff_nothing_ahead reached accepts).2 _ catchesUp).mpr ⟨?_, ?_⟩
  · exact Pipeline.not_editAhead_iff.mpr rfl
  · exact ⟨{ id := "paypal", label := "PayPal" }, rfl, rfl, rfl⟩

end SessionRun

end WalletTopUp
