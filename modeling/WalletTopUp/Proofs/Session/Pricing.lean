import WalletTopUp.Proofs.Pipeline.Pricing
import WalletTopUp.Proofs.Session.Legitimacy

/-!
# The currency of a session

A screen learns its currency at the setup, while its pipeline already takes what is typed.  What the
pipeline asks about fiat is asked in the currency of the session as long as no task for it begins
before the setup has been taken over; a task that begins earlier asks in a currency without a name
(`SessionRun.priced_in_session_currency`).  Limits that have been asked for so early are never asked
for again (`SessionRun.unnamed_limits_kept`).
-/

namespace WalletTopUp

namespace SessionRun

variable {settings : SessionSettings} {run : SessionRun} {past : History} {code : String}

/-- The currency of a session: its pipeline holds it, and it has been learned at the setup. -/
structure IsCurrency (past : History) (run : SessionRun) (code : String) : Prop where
  held : run.pipeline.state.entry.currency.code = code
  learned : ∃ symbol, CurrencyLearned past code symbol

/-- A price is in the currency of the session, unless it has been asked for before the setup; then
it is in a currency without a name. -/
def IsPriced (past : History) (run : SessionRun) (code : String) : Prop :=
  IsCurrency past run code ∨ (code = "" ∧ Pipeline.PricedEarly (turns past))

/-- Once the pipeline has taken a setup over, its currency is the session's. -/
theorem isCurrency_of_takesSetup {moment : Moment Pipeline Pipeline.Turn} {currency : LocalCurrency}
    (reached : Reaches (SessionRun.move settings) (start settings) past run)
    (member : moment ∈ turns past)
    (takes : Pipeline.TakesSetup currency moment) : IsCurrency past run currency.code := by
  have disciplined := disciplined_of_reaches reached
  obtain ⟨methods, sent⟩ := Pipeline.mem_sent_of_takesSetup (reaches_turns reached) member takes
  refine ⟨?_, currency.symbol,
    disciplined.introduced methods currency (List.mem_append_left _ sent)⟩
  rcases Pipeline.currency_of_reaches (reaches_turns reached) with setUp | ⟨notSetUp, _⟩
  · obtain ⟨latest, inTurns, taken⟩ := setUp.exists_mem
    obtain ⟨_, sentLatest⟩ := Pipeline.mem_sent_of_takesSetup (reaches_turns reached) inTurns taken
    rw [disciplined.sent.inOrder.setup_unique sentLatest sent]
  · exact (notSetUp moment member currency takes).elim

/-- **A task begins in the currency of the session if the setup has been taken over, and in none
otherwise.** -/
theorem currency_of_begins {moment : Moment Pipeline Pipeline.Turn} {before : Pipeline.History}
    (reached : Reaches (SessionRun.move settings) (start settings) past run)
    (suffix : moment :: before <:+ turns past)
    (begins : Pipeline.BeginsPricing code moment) :
    (Pipeline.NotSetUp before → code = "")
      ∧ (¬ Pipeline.NotSetUp before → IsCurrency past run code) := by
  rcases Pipeline.currency_of_begins (reaches_turns reached) suffix begins with
    ⟨symbol, setUp⟩ | ⟨notSetUp, unknown⟩
  · obtain ⟨latest, member, takes⟩ := setUp.exists_mem
    have inTurns := suffix.subset (List.mem_cons_of_mem _ member)
    exact ⟨fun notSetUp => (notSetUp latest member _ takes).elim,
      fun _ => isCurrency_of_takesSetup reached inTurns takes⟩
  · exact ⟨fun _ => unknown, fun setUp => (setUp notSetUp).elim⟩

theorem isPriced_of_begun
    (reached : Reaches (SessionRun.move settings) (start settings) past run)
    (begun : Pipeline.HasBegunPricing code (turns past)) : IsPriced past run code := by
  obtain ⟨moment, before, suffix, begins⟩ := begun.exists_suffix
  obtain ⟨unknown, known⟩ := currency_of_begins reached suffix begins
  by_cases notSetUp : Pipeline.NotSetUp before
  · refine .inr ⟨unknown notSetUp, ?_⟩
    exact Since.extend (.now ⟨⟨code, begins⟩, notSetUp⟩) suffix
  · exact .inl (known notSetUp)

/-- The limits that the pipeline holds have been asked for in this currency. -/
def LimitsIn (past : History) (limits : TopUpLimits) (code : String) : Prop :=
  Pipeline.LearnedSince (fun _ => True) (Pipeline.BeginsLimits code) .limits (turns past)
    (.limits code) (.ok limits)

theorem limits_priced {limits : TopUpLimits}
    (reached : Reaches (SessionRun.move settings) (start settings) past run)
    (known : run.pipeline.state.limits = some limits) :
    ∃ code, LimitsIn past limits code ∧ IsPriced past run code := by
  obtain ⟨code, learned⟩ :=
    (Pipeline.limited_of_reaches (reaches_turns reached)).known limits known
  exact ⟨code, learned, isPriced_of_begun reached (Pipeline.begun_of_limitsLearned learned)⟩

theorem currency_of_topUp {method : PaymentMethod} {entry : AmountEntry} {submission : Submission}
    {package : String} {order : PaymentOrder}
    (made : PaymentOrder.topUp method entry submission package = some order) :
    order.currency = entry.currency.code := by
  obtain ⟨_, _, rfl⟩ := Option.map_eq_some_iff.mp made
  rfl

/-- **Everything is priced in the session's currency, apart from what is asked for before the
setup.**  In every run of a screen, however its tasks are interleaved and whatever the services
answer:

* A conversion of fiat, a forecast or a load of the limits begins in the currency of the session if
  the setup has been taken over before, and otherwise in a currency without a name.
* Every request about fiat and the limits that the pipeline holds are in the currency of the
  session, unless such a task has begun before the setup.
* The same holds for the limits that the pipeline holds when an order is placed, and for the
  currency of the order. -/
theorem priced_in_session_currency
    (reached : Reaches (SessionRun.move settings) (start settings) past run) :
    (∀ moment before code, moment :: before <:+ turns past →
        Pipeline.BeginsPricing code moment →
          (Pipeline.NotSetUp before → code = "")
            ∧ (¬ Pipeline.NotSetUp before → IsCurrency past run code))
      ∧ (∀ moment ∈ turns past, ∀ task call request code,
          Pipeline.Asks task call request moment → request.fiat? = some code →
            Pipeline.HasBegunPricing code (turns past) ∧ IsPriced past run code)
      ∧ (∀ limits, run.pipeline.state.limits = some limits →
          ∃ code, LimitsIn past limits code ∧ IsPriced past run code)
      ∧ ∀ moment ∈ past, ∀ order limits, PlacesOrder settings order moment →
          moment.before.pipeline.state.limits = some limits →
            ∃ code, LimitsIn past limits code
              ∧ (order.currency = code ∨ (code = "" ∧ Pipeline.PricedEarly (turns past))) := by
  have reachedTurns := reaches_turns reached
  refine ⟨fun _ _ _ => currency_of_begins reached, ?_, fun _ => limits_priced reached, ?_⟩
  · intro moment member task call request code asks names
    obtain ⟨earlier, _, suffix, reachedEarlier, _⟩ := reachedTurns.exists_of_mem member
    have begun : Pipeline.HasBegunPricing code (turns past) :=
      (Pipeline.begun_of_asks reachedEarlier asks names).extend
        ((List.suffix_cons _ _).trans suffix)
    exact ⟨begun, isPriced_of_begun reached begun⟩
  · intro moment member order limits places known
    obtain ⟨earlier, _, suffix, reachedEarlier, _⟩ := reached.exists_of_mem member
    obtain ⟨code, learned, priced⟩ := limits_priced reachedEarlier known
    obtain ⟨_, _, _, made⟩ := places.made
    have inTurns : turns earlier <:+ turns past :=
      turns_suffix ((List.suffix_cons _ _).trans suffix)
    refine ⟨code, learned.extend inTurns, ?_⟩
    rcases priced with current | ⟨unnamed, early⟩
    · exact .inl ((currency_of_topUp made).trans current.held)
    · exact .inr ⟨unnamed, early.extend inTurns⟩

theorem priced_in_session_currency_of_ready :
    ∃ past limits code, Reaches (SessionRun.move {}) (start {}) past Sample.ready
      ∧ Sample.ready.pipeline.state.limits = some limits
      ∧ LimitsIn past limits code ∧ IsPriced past Sample.ready code := by
  obtain ⟨past, reachedAwaiting⟩ := Sample.reaches_ready
  have reached := reaches_of_awaitMove reachedAwaiting
  obtain ⟨limits, known⟩ : ∃ limits, Sample.ready.pipeline.state.limits = some limits := ⟨_, rfl⟩
  obtain ⟨code, learned, priced⟩ := (priced_in_session_currency reached).2.2.1 limits known
  exact ⟨past, limits, code, reached, known, learned, priced⟩

/-! ## A screen whose setup takes longer than the first amount -/

/-- Ten euros are typed before the setup has been answered, and they are converted. -/
def Sample.typingEarly : List Move :=
  [Move.send (.amountChanged "10")] ++ steps .session 2 ++ steps .pipeline 6 ++ [Move.advance 700]
    ++ steps .pipeline 2
    ++ [Move.step .conversion, .answer 0 PipelineRun.Sample.server, .step .conversion]
    ++ steps .pipeline 6

/-- The limits are on their way; then the screen is set up and a method is selected. -/
def Sample.settingUpLate : List Move :=
  [Move.step .limits] ++ steps .pipeline 8
    ++ [Move.step .setup, .step .setup, .answer 2 PipelineRun.Sample.server,
      .answer 3 PipelineRun.Sample.server, .step .setup]
    ++ steps .session 3 ++ steps .pipeline 3 ++ [Move.send (.paymentMethodSelected "paypal")]
    ++ steps .session 2 ++ steps .pipeline 9

/-- The limits are about to be loaded. -/
def Sample.typedEarly : SessionRun := after (start {}) typingEarly

/-- The load of the limits has begun. -/
def Sample.loading : SessionRun := after typedEarly (steps .pipeline 1)

/-- The limits have been asked for. -/
def Sample.loadAsked : SessionRun := after loading [.step .limits]

/-- The limits have been answered. -/
def Sample.loadAnswered : SessionRun := after loadAsked [.answer 1 PipelineRun.Sample.server]

/-- The screen has been set up after that, and its state may be submitted. -/
def Sample.setUpLate : SessionRun := after loadAnswered settingUpLate

/-- The limits of a currency that the services answer with. -/
def Sample.limitsOf (currency : String) : TopUpLimits :=
  ⟨⟨PipelineRun.Sample.whole 5, currency, ""⟩, ⟨PipelineRun.Sample.whole 500, currency, ""⟩⟩

/-- Limits that have been asked for in a currency without a name are kept, and nothing is asked
again once the setup is there: the state may be submitted in the currency of the session with
limits that are none of this currency. -/
theorem unnamed_limits_kept :
    ∃ past, Reaches (SessionRun.awaitMove {}) (start {}) past Sample.setUpLate
      ∧ (∃ moment ∈ turns past, Pipeline.Asks .limits 1 (.limits "") moment)
      ∧ Sample.setUpLate.calls.map Call.request
        = [.quote "" "10" (some tokenCode), .limits "", .methods, .quote tokenCode "1.0" none]
      ∧ Sample.setUpLate.pipeline.state.limits = some (Sample.limitsOf "")
      ∧ LimitsIn past (Sample.limitsOf "") ""
      ∧ Sample.setUpLate.pipeline.state.entry.currency.code = "EUR"
      ∧ Gate.canSubmit Sample.setUpLate.pipeline.state = true := by
  have typed : Sample.typingEarly.foldlM (SessionRun.awaitMove {}) (start {})
      = some Sample.typedEarly := by rfl
  have begins : Sample.typedEarly.awaitMove {} (.step .pipeline) = some Sample.loading := by rfl
  have asks : Sample.loading.awaitMove {} (.step .limits) = some Sample.loadAsked := by rfl
  have answers : Sample.loadAsked.awaitMove {} (.answer 1 PipelineRun.Sample.server)
      = some Sample.loadAnswered := by rfl
  have settled : Sample.settingUpLate.foldlM (SessionRun.awaitMove {}) Sample.loadAnswered
      = some Sample.setUpLate := by rfl
  obtain ⟨first, reachedFirst, _⟩ := Reaches.of_foldlM typed
  obtain ⟨last, reachedLast, _⟩ := Reaches.of_foldlM settled
  have reached := (((reachedFirst.step begins).step asks).step answers).trans reachedLast
  have turned : turns (⟨Sample.loadAsked, .answer 1 PipelineRun.Sample.server⟩
        :: ⟨Sample.loading, .step .limits⟩ :: ⟨Sample.typedEarly, .step .pipeline⟩ :: first)
      = ⟨Sample.loadAsked.pipeline, .hear 1 PipelineRun.Sample.server⟩
        :: ⟨Sample.loading.pipeline, .ask .limits 1⟩
        :: ⟨Sample.typedEarly.pipeline, .own Sample.typedEarly.now Sample.typedEarly.sink⟩
        :: turns first := by rfl
  have asked : Pipeline.Asks .limits 1 (.limits "") ⟨Sample.loading.pipeline, .ask .limits 1⟩ :=
    ⟨rfl, rfl⟩
  have loads : Pipeline.BeginsLimits ""
      ⟨Sample.typedEarly.pipeline, .own Sample.typedEarly.now Sample.typedEarly.sink⟩ :=
    ⟨⟨⟨_, _, rfl⟩, _, rfl⟩, rfl⟩
  refine ⟨_, reached, ⟨_, ?_, asked⟩, rfl, rfl, ?_, rfl, rfl⟩
  · rw [turns_append, turned]
    exact List.mem_append_right _ (List.mem_cons_of_mem _ List.mem_cons_self)
  · rw [LimitsIn, turns_append, turned]
    exact .append (fun _ _ => trivial) (.now ⟨1, ⟨_, rfl, rfl⟩, .now ⟨asked, .now loads⟩⟩)

end SessionRun

end WalletTopUp
