import WalletTopUp.Proofs.Pipeline.Limits
import WalletTopUp.Proofs.Pipeline.Publications
import WalletTopUp.Proofs.Session.Inputs
import WalletTopUp.Proofs.Session.Payments

/-!
# Legitimate payments

Whatever the services answer, a screen only ever asks for a payment that is a legitimate top-up
(`SessionRun.IsLegitimate`), as long as the tasks of the screen give way to each other at their
await points only (`SessionRun.awaitMove`).  The facts come from the setup, from the inputs of the
pipeline, from its check against the limits and from the payment's own look-up of the wallet; they
meet in the state in which a click on the submit control is accepted
(`SessionRun.legitimate_of_placesOrder`).
-/

namespace WalletTopUp

namespace SessionRun

variable {settings : SessionSettings} {run : SessionRun} {past : History}

/-- The run after a move of tasks that give way to each other at their await points only: the
session takes no step while the pipeline is between two of its await points. -/
def awaitMove (settings : SessionSettings) (run : SessionRun) : Move → Option SessionRun
  | .step .session =>
    if run.pipeline.isAwaiting then run.move settings (.step .session) else none
  | event => run.move settings event

theorem move_of_awaitMove {event : Move} {next : SessionRun}
    (moved : run.awaitMove settings event = some next) :
    run.move settings event = some next
      ∧ (event = .step .session → run.pipeline.isAwaiting = true) := by
  unfold awaitMove at moved
  split at moved
  · split at moved
    · next awaiting => exact ⟨moved, fun _ => awaiting⟩
    · cases moved
  · next other => exact ⟨moved, fun same => (other same).elim⟩

/-- What is reached at await points is reached. -/
theorem reaches_of_awaitMove {first : SessionRun}
    (reached : Reaches (SessionRun.awaitMove settings) first past run) :
    Reaches (SessionRun.move settings) first past run :=
  reached.mono fun _ _ _ moved => (move_of_awaitMove moved).1

/-- A payment request that a screen may make: the top-up of a state that may be submitted, with the
method, the limits and both amounts of this state. -/
structure IsLegitimate (settings : SessionSettings) (past : History) (payment : PaymentRequest)
    (state : ScreenState) (method : PaymentMethod) (limits : TopUpLimits) : Prop where
  settled : state.settled = true
  fiat : state.entry.fiat.positive? = some payment.priceValue
  token : state.entry.token.positive? ≠ none
  positive : payment.priceValue.isPositive = true
  selected : state.selectedMethod = some method
  named : payment.method = method.id
  /-- The provider has offered the method at the setup, and it is supported. -/
  offered : Offered settings past method
  known : state.limits = some limits
  /-- The limits have been loaded in this session. -/
  loaded : Pipeline.LimitsLearned (turns past) limits
  withinLimits : limits.min.amount.le payment.priceValue = true
    ∧ payment.priceValue.le limits.max.amount = true
  withinMethod : (∀ least, method.minAmount = some least → least.le payment.priceValue = true)
    ∧ ∀ most, method.maxAmount = some most → payment.priceValue.le most = true
  /-- The currency has been learned at the setup. -/
  currency : ∃ symbol, CurrencyLearned past payment.priceCurrency symbol
  /-- A payment of this screen, this one or an earlier one, has looked the wallet up. -/
  wallet : Learned .payment past .wallet (.ok payment.walletAddress)
  topUp : payment.transactionType = "TOPUP"
  unrouted : payment.storeWallet = none ∧ payment.oemWallet = none ∧ payment.userWallet = none

/-- At an await point the selected method is one that has been offered, and the currency is the one
that has been learned. -/
theorem offered_of_selected {method : PaymentMethod}
    (reached : Reaches (SessionRun.move settings) (start settings) past run)
    (awaiting : run.pipeline.isAwaiting = true)
    (selected : run.pipeline.state.selectedMethod = some method) :
    Offered settings past method
      ∧ CurrencyLearned past run.pipeline.state.entry.currency.code
          run.pipeline.state.entry.currency.symbol := by
  have disciplined := disciplined_of_reaches reached
  obtain ⟨taken, received, sent⟩ := Pipeline.received_of_reaches (reaches_turns reached)
  have orderly : AmountInput.Orderly taken :=
    disciplined.sent.of_initial ⟨run.pipeline.inputs, sent.symm⟩
  have plannedIn : ∀ input ∈ taken, input ∈ planned past run := fun input member => by
    rw [planned, sent]
    exact List.mem_append_left _ (List.mem_append_left _ member)
  have chosen := received.selected method selected
  refine ⟨disciplined.selected method (plannedIn _ chosen), ?_⟩
  obtain ⟨before, after, split⟩ := List.append_of_mem chosen
  obtain ⟨methods, currency, earlier⟩ := orderly.setUpFirst before method after split
  have setUp : .setup methods currency ∈ taken := by
    rw [split]
    exact List.mem_append_left _ earlier
  rcases received.setUp orderly.inOrder methods currency setUp with settingUp | arrived
  · exact (Pipeline.not_settingUp_of_isAwaiting awaiting settingUp).elim
  · rw [arrived]
    exact disciplined.introduced methods currency (plannedIn _ setUp)

/-- **An order is placed in a state that has everything a legitimate payment needs.** -/
theorem legitimate_of_placesOrder {earlier : History} {moment : Moment SessionRun Move}
    {order : PaymentOrder} {wallet : String}
    (reached : Reaches (SessionRun.move settings) (start settings) earlier moment.before)
    (awaiting : moment.before.pipeline.isAwaiting = true)
    (places : PlacesOrder settings order moment)
    (suffix : earlier <:+ past)
    (learned : Learned .payment past .wallet (.ok wallet)) :
    ∃ method limits, IsLegitimate settings past (order.request wallet none)
      moment.before.pipeline.state method limits := by
  obtain ⟨own, isOpen, canSubmit, method, submission, selected, made⟩ := places
  obtain ⟨value, fiat, rfl⟩ := Option.map_eq_some_iff.mp made
  obtain ⟨settled, _, _, token, _⟩ := Gate.canSubmit_iff.mp canSubmit
  have ready := Pipeline.ready_of_inOrder (reaches_turns reached)
    (disciplined_of_reaches reached).sent.inOrder (running_of_isOpen reached isOpen)
  obtain ⟨amount, limits, same, known, within⟩ := ScreenState.verdict_eq_some_iff.mp
    (Pipeline.verdict_of_canSubmit ready awaiting canSubmit)
  obtain rfl : value = amount :=
    Option.some.inj ((AmountValue.amount?_of_positive? fiat).symm.trans same)
  rw [selected] at within
  obtain ⟨offered, currency⟩ := offered_of_selected reached awaiting selected
  obtain ⟨code, since⟩ := (Pipeline.limited_of_reaches (reaches_turns reached)).known limits known
  obtain ⟨later, rfl⟩ := suffix
  refine ⟨method, limits, ?_⟩
  exact {
    settled, fiat, token, selected, known
    positive := AmountValue.isPositive_of_positive? fiat
    named := rfl
    offered := offered.mono (List.suffix_append _ _)
    loaded := ⟨code, turns_append later earlier ▸ since.append fun _ _ => trivial⟩
    withinLimits := Gate.within_limits within
    withinMethod := Gate.within_method within
    currency := ⟨_, currency.mono (List.suffix_append _ _)⟩
    wallet := learned
    topUp := rfl
    unrouted := ⟨rfl, rfl, rfl⟩ }

/-- A click on a state that may be submitted always makes an order. -/
theorem nextDuties_of_canSubmit (settings : SessionSettings) {session : Session}
    {state : ScreenState}
    (idle : session.isPaying = false)
    (canSubmit : Gate.canSubmit state = true)
    (submission : Submission) :
    ∃ order, session.nextDuties settings state submission
      = [.emit .showLoading, .pay (.topUp order)] := by
  obtain ⟨_, _, fiat, _, chosen⟩ := Gate.canSubmit_iff.mp canSubmit
  obtain ⟨method, selected⟩ := Option.ne_none_iff_exists'.mp chosen
  obtain ⟨value, positive⟩ := Option.ne_none_iff_exists'.mp fiat
  obtain ⟨order, made⟩ : ∃ order, PaymentOrder.topUp method state.entry submission
      settings.pipeline.package = some order := by
    rw [PaymentOrder.topUp, positive]
    exact ⟨_, rfl⟩
  refine ⟨order, ?_⟩
  simp only [Session.nextDuties, idle, canSubmit, selected, made, Bool.not_true, Bool.or_self,
    Bool.false_eq_true, if_false]

/-- **Every top-up request is a legitimate one.**  In every run of a screen, whatever the services
answer and however its tasks are interleaved at their await points: every payment that is asked for
was made from a state at an await point, which gives its method, amount and limits, and it is
legitimate with them.  Conversely a click on a state that may be submitted always makes an order
unless a payment is under way. -/
theorem topUps_legitimate
    (reached : Reaches (SessionRun.awaitMove settings) (start settings) past run) :
    (∀ call ∈ run.calls, ∀ payment, call.request = .pay payment →
        ∃ moment ∈ past, moment.event = .step .session
          ∧ ∃ method limits, IsLegitimate settings past payment moment.before.pipeline.state
              method limits)
      ∧ (run.session.isPaying = false → Gate.canSubmit run.pipeline.state = true →
          ∀ submission, ∃ order,
            run.session.eventDuties settings run.pipeline.state (.nextClicked submission)
              = [.emit .showLoading, .pay (.topUp order)]) := by
  refine ⟨fun call member payment same => ?_, nextDuties_of_canSubmit settings⟩
  obtain ⟨order, wallet, ⟨moment, happened, places⟩, learned, rfl⟩ :=
    (paysOrders_of_reaches (reaches_of_awaitMove reached)).paid call member payment same
  obtain ⟨earlier, after, suffix, reachedEarlier, moved⟩ := reached.exists_of_mem happened
  have awaiting := (move_of_awaitMove moved).2 places.own
  refine ⟨moment, happened, places.own, ?_⟩
  exact legitimate_of_placesOrder (reaches_of_awaitMove reachedEarlier) awaiting places
    ((List.suffix_cons _ _).trans suffix) learned

/-! ## A run that ends with a payment -/

/-- A number of steps of a task. -/
def Sample.steps (task : TaskName) (count : Nat) : List Move := List.replicate count (.step task)

/-- The screen is set up with services that answer every question. -/
def Sample.settingUp : List Move :=
  [Move.step .setup, .step .setup, .answer 0 PipelineRun.Sample.server,
      .answer 1 PipelineRun.Sample.server, .step .setup] ++ steps .session 3 ++ steps .pipeline 3
    ++ [Move.step .limits, .answer 2 PipelineRun.Sample.server, .step .limits] ++ steps .pipeline 3

/-- A method is selected, ten euros are typed, and every question is answered. -/
def Sample.entering : List Move :=
  [Move.send (.paymentMethodSelected "paypal")] ++ steps .session 2 ++ steps .pipeline 3
    ++ [Move.send (.amountChanged "10")] ++ steps .session 2 ++ steps .pipeline 6
    ++ [Move.advance 700] ++ steps .pipeline 2
    ++ [Move.step .conversion, .answer 3 PipelineRun.Sample.server, .step .conversion]
    ++ steps .pipeline 10
    ++ [Move.step .bonus, .answer 4 PipelineRun.Sample.server, .step .bonus,
      .answer 5 PipelineRun.Sample.server, .step .bonus] ++ steps .pipeline 5

/-- What the presentation layer adds to the click. -/
def Sample.submission : Submission := ⟨.null, "wallet://return"⟩

/-- The submit control is clicked, and the payment is sent. -/
def Sample.paying : List Move :=
  [Move.send (.nextClicked submission)] ++ steps .session 3
    ++ [Move.step .payment, .answer 6 PipelineRun.Sample.server, .step .payment]

/-- The run after more moves. -/
def Sample.after (run : SessionRun) (list : List Move) : SessionRun :=
  (list.foldlM (SessionRun.awaitMove {}) run).getD run

/-- The screen once it has been set up. -/
def Sample.setUp : SessionRun := after (start {}) settingUp

/-- The screen once its state may be submitted. -/
def Sample.ready : SessionRun := after setUp entering

/-- The screen once it has asked for a payment. -/
def Sample.paid : SessionRun := after ready paying

/-- Moves that are possible lead on to what can be reached. -/
theorem Sample.reaches_after {list : List Move}
    (reached : ∃ past, Reaches (SessionRun.awaitMove {}) (start {}) past run)
    (made : (list.foldlM (SessionRun.awaitMove {}) run).isSome = true) :
    ∃ past, Reaches (SessionRun.awaitMove {}) (start {}) past (after run list) := by
  obtain ⟨_, reached⟩ := reached
  obtain ⟨last, ran⟩ := Option.isSome_iff_exists.mp made
  obtain ⟨_, later, _⟩ := Reaches.of_foldlM ran
  rw [after, ran]
  exact ⟨_, reached.trans later⟩

theorem Sample.reaches_ready :
    ∃ past, Reaches (SessionRun.awaitMove {}) (start {}) past Sample.ready := by
  have reachedSetUp : ∃ past, Reaches (SessionRun.awaitMove {}) (start {}) past setUp :=
    reaches_after ⟨_, .start⟩ (by rfl)
  exact reaches_after reachedSetUp (by rfl)

theorem Sample.reaches_paid :
    ∃ past, Reaches (SessionRun.awaitMove {}) (start {}) past Sample.paid :=
  reaches_after reaches_ready (by rfl)

/-- The payment that has been asked for. -/
def Sample.payment : PaymentRequest where
  payment := .null
  returnUrl := "wallet://return"
  priceValue := PipelineRun.Sample.whole 10
  priceCurrency := "EUR"
  reference := none
  method := "paypal"
  walletAddress := "0x1"
  origin := none
  domain := ""
  metadata := none
  sku := none
  callbackUrl := none
  transactionType := "TOPUP"
  developerWallet := none
  storeWallet := none
  oemWallet := none
  userWallet := none

theorem topUps_legitimate_of_sample :
    (∃ past, Reaches (SessionRun.awaitMove {}) (start {}) past Sample.paid
      ∧ (∃ call ∈ Sample.paid.calls, call.request = .pay Sample.payment)
      ∧ ∃ moment ∈ past, moment.event = .step .session
          ∧ ∃ method limits, IsLegitimate {} past Sample.payment moment.before.pipeline.state
              method limits)
      ∧ Sample.ready.session.isPaying = false
      ∧ Gate.canSubmit Sample.ready.pipeline.state = true
      ∧ ∃ order, Sample.ready.session.eventDuties {} Sample.ready.pipeline.state
          (.nextClicked Sample.submission) = [.emit .showLoading, .pay (.topUp order)] := by
  obtain ⟨_, reachedReady⟩ := Sample.reaches_ready
  obtain ⟨_, reached⟩ := Sample.reaches_paid
  have asked : Sample.paid.calls[7]? = some ⟨700, .pay Sample.payment⟩ := by rfl
  have member := List.mem_of_getElem? asked
  refine ⟨⟨_, reached, ⟨_, member, rfl⟩, ?_⟩, rfl, rfl, ?_⟩
  · exact (topUps_legitimate reached).1 _ member Sample.payment rfl
  · exact (topUps_legitimate reachedReady).2 rfl rfl Sample.submission

end SessionRun

end WalletTopUp
