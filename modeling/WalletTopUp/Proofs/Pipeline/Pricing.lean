import WalletTopUp.Proofs.Pipeline.Limits
import WalletTopUp.Proofs.Pipeline.Requests
import WalletTopUp.Proofs.Pipeline.Supersession

/-!
# The currency that a pipeline asks in

A task that converts fiat, forecasts a bonus or loads the limits names the currency that the state
holds when the task begins, and keeps to it (`Pipeline.begun_of_asks`,
`Pipeline.begun_of_limitsLearned`).  That currency is the one of the setup taken over last; before
any setup it is not known, and its name is empty (`Pipeline.currency_of_begins`).
-/

namespace WalletTopUp

/-- The local currency that a request names: it asks for the limits in this currency, or what an
amount of it is worth in another one. -/
def Request.fiat? : Request → Option String
  | .limits currency => some currency
  | .quote currency _ (some _) => some currency
  | _ => none

namespace Pipeline

variable {settings : PipelineSettings} {pipeline next : Pipeline} {past : History}
  {moment : Moment Pipeline Turn} {code : String}

/-! ## The currency of the state -/

/-- A setup with this currency is taken over. -/
def TakesSetup (currency : LocalCurrency) (moment : Moment Pipeline Turn) : Prop :=
  ∃ methods, Does (.publish (.setupLoaded methods currency)) moment

/-- The setup that was taken over last had this currency. -/
def SetUpWith (currency : LocalCurrency) (past : History) : Prop :=
  Since (fun moment => ∀ other, ¬ TakesSetup other moment)
    (fun moment _ => TakesSetup currency moment) past

/-- No setup has been taken over. -/
def NotSetUp (past : History) : Prop := ∀ moment ∈ past, ∀ currency, ¬ TakesSetup currency moment

/-- Only a setup changes the currency. -/
theorem currency_of_turn {turn : Turn} (moved : pipeline.turn settings turn = some next) :
    TakesSetup next.state.entry.currency ⟨pipeline, turn⟩
      ∨ ((∀ currency, ¬ TakesSetup currency ⟨pipeline, turn⟩)
        ∧ next.state.entry.currency = pipeline.state.entry.currency) := by
  by_cases takes : ∃ currency, TakesSetup currency ⟨pipeline, turn⟩
  · obtain ⟨currency, methods, does⟩ := takes
    obtain ⟨now, rest, rfl⟩ := performs_of_does moved does (by simp)
    exact .inl ⟨methods, does⟩
  · refine .inr ⟨fun currency taken => takes ⟨currency, taken⟩, ?_⟩
    rcases step_of_turn moved with ⟨now, sink, rfl, _, step⟩ | step
    · cases step with
      | @performs duty rest head _ =>
          rw [state_perform]
          cases duty with
          | publish action =>
              refine ScreenState.currency_next action fun methods currency same => ?_
              subst same
              exact takes ⟨currency, methods, ⟨now, sink, rfl⟩, rest, head⟩
          | _ => rfl
      | _ => rfl
    · rw [(background_of_backgroundStep step).state]

/-- **The currency of the state is that of the latest setup.** -/
theorem currency_of_reaches
    (reached : Reaches (Pipeline.turn settings) (start settings) past pipeline) :
    SetUpWith pipeline.state.entry.currency past
      ∨ (NotSetUp past ∧ pipeline.state.entry.currency.code = "") := by
  induction reached with
  | start => exact .inr ⟨fun _ member => (by cases member), rfl⟩
  | step _ moved ih =>
      rcases currency_of_turn moved with takes | ⟨keeps, same⟩
      · exact .inl (.now takes)
      · rw [same]
        rcases ih with setUp | ⟨notSetUp, unknown⟩
        · exact .inl (.later keeps setUp)
        · refine .inr ⟨fun moment member => ?_, unknown⟩
          rcases List.mem_cons.mp member with rfl | earlier
          · exact keeps
          · exact notSetUp moment earlier

/-- A setup that has been taken over was an input. -/
theorem mem_sent_of_takesSetup {currency : LocalCurrency}
    (reached : Reaches (Pipeline.turn settings) (start settings) past pipeline)
    (member : moment ∈ past)
    (takes : TakesSetup currency moment) : ∃ methods, .setup methods currency ∈ sent past := by
  obtain ⟨earlier, _, suffix, reachedEarlier, _⟩ := reached.exists_of_mem member
  obtain ⟨methods, _, rest, head⟩ := takes
  obtain ⟨taken, received, same⟩ := received_of_reaches reachedEarlier
  have input := received.settingUp methods currency (head ▸ List.mem_cons_self)
  refine ⟨methods, (sent_initial ((List.suffix_cons _ _).trans suffix)).subset ?_⟩
  rw [same]
  exact List.mem_append_left _ input

theorem SetUpWith.exists_mem {currency : LocalCurrency} (setUp : SetUpWith currency past) :
    ∃ moment ∈ past, TakesSetup currency moment := by
  obtain ⟨moment, _, suffix, takes⟩ := setUp.exists_suffix
  exact ⟨moment, suffix.subset List.mem_cons_self, takes⟩

/-! ## The currency of a request -/

/-- A task begins that may ask about fiat, and the currency is this one. -/
def BeginsPricing (code : String) (moment : Moment Pipeline Turn) : Prop :=
  (Does .convert moment ∨ Does .forecast moment ∨ Does .loadLimits moment)
    ∧ moment.before.state.entry.currency.code = code

/-- A task that may ask about fiat has begun in this currency. -/
def HasBegunPricing (code : String) (past : History) : Prop :=
  Since (fun _ => True) (fun moment _ => BeginsPricing code moment) past

/-- A task that may ask about fiat has begun before any setup was taken over. -/
def PricedEarly (past : History) : Prop :=
  Since (fun _ => True) (fun moment before => (∃ code, BeginsPricing code moment) ∧ NotSetUp before)
    past

/-- **A task begins in the currency of the setup before it, or in none before any setup.** -/
theorem currency_of_begins {before : History}
    (reached : Reaches (Pipeline.turn settings) (start settings) past pipeline)
    (suffix : moment :: before <:+ past)
    (begins : BeginsPricing code moment) :
    (∃ symbol, SetUpWith ⟨code, symbol⟩ before) ∨ (NotSetUp before ∧ code = "") := by
  obtain ⟨_, rfl⟩ := begins
  rcases currency_of_reaches (reached.of_suffix suffix) with setUp | unknown
  · exact .inl ⟨_, setUp⟩
  · exact .inr unknown

-- What a conversion asks for must not be decided by reading the amount.
attribute [local irreducible] Amount.isNonNegative

/-- A request about fiat names the currency in which its task has begun. -/
def NamesCurrency (past : History) (request : Request) : Prop :=
  ∀ code, request.fiat? = some code →
    HasBegunPricing code past

theorem namesCurrency_of_reaches
    (reached : Reaches (Pipeline.turn settings) (start settings) past pipeline) :
    pipeline.AsksOnly (NamesCurrency past) := by
  refine asksOnly_of_reaches NamesCurrency reached
    (fun _ _ _ names code same => .later trivial (names code same))
    fun past pipeline now sink duty rest head => ?_
  have names : (duty = .convert ∨ duty = .forecast ∨ duty = .loadLimits) → ∀ request,
      (∀ code, request.fiat? = some code → pipeline.state.entry.currency.code = code) →
        NamesCurrency (⟨pipeline, .own now sink⟩ :: past) request := by
    intro begins request names code same
    have does : Does duty ⟨pipeline, .own now sink⟩ := ⟨⟨now, sink, rfl⟩, rest, head⟩
    refine .now ⟨?_, names code same⟩
    rcases begins with rfl | rfl | rfl
    · exact .inl does
    · exact .inr (.inl does)
    · exact .inr (.inr does)
  have silent : ∀ request : Request, request.fiat? = none →
      NamesCurrency (⟨pipeline, .own now sink⟩ :: past) request :=
    fun _ none code same => by rw [none] at same; cases same
  cases duty with
  | convert =>
      intro amount
      exact allRequests_conversionOf (fun _ => names (.inl rfl) _ fun _ => Option.some.inj)
        (fun _ => silent _ rfl) fun _ _ => silent _ rfl
  | forecast =>
      intro fiat
      exact allRequests_bonusOf (fun _ => names (.inr (.inl rfl)) _ fun _ => Option.some.inj)
        fun _ _ => silent _ rfl
  | loadLimits => exact allRequests_limitsOf (names (.inr (.inr rfl)) _ fun _ => Option.some.inj)
  | _ => trivial

/-- **Every request about fiat names the currency in which its task has begun.** -/
theorem begun_of_asks {turn : Turn} {task : TaskName} {call : CallId} {request : Request}
    (reached : Reaches (Pipeline.turn settings) (start settings) past pipeline)
    (asks : Asks task call request ⟨pipeline, turn⟩)
    (names : request.fiat? = some code) : HasBegunPricing code past := by
  obtain ⟨⟨asked, resume⟩, puts, same⟩ := Option.map_eq_some_iff.mp asks.2
  obtain rfl : asked = request := same
  exact (namesCurrency_of_reaches reached).ask puts code names

/-- The limits of a currency have been learned by a task that has begun in it. -/
theorem begun_of_limitsLearned {limits : TopUpLimits}
    (learned : LearnedSince (fun _ => True) (BeginsLimits code) .limits past (.limits code)
      (.ok limits)) : HasBegunPricing code past := by
  obtain ⟨_, heard, inHeard, _, _, asked⟩ := learned.exists_suffix
  obtain ⟨_, before, inAsked, _, begun⟩ := asked.exists_suffix
  have begins : HasBegunPricing code before :=
    begun.mono (fun _ => id) fun _ _ begins => ⟨.inr (.inr begins.1), begins.2⟩
  exact begins.extend
    (((List.suffix_cons _ _).trans inAsked).trans ((List.suffix_cons _ _).trans inHeard))

end Pipeline

end WalletTopUp
