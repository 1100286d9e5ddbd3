import WalletTopUp.Proofs.Pipeline.Inputs
import WalletTopUp.Proofs.Session.Learning

/-!
# What a session hands to its pipeline

A session sets its pipeline up at most once and selects a method only after that
(`AmountInput.Orderly`).  The currency of the setup is the one that has been learned, and every
method is one that the provider offers and that is supported (`SessionRun.Disciplined`).  The
invariant looks at the inputs that have been handed over together with those that are going to be
(`SessionRun.planned`): as long as the session is open, what is planned is handed over.
-/

namespace WalletTopUp

namespace AmountInput

/-- Whether an input neither sets the methods up nor selects one. -/
def isPlain : AmountInput → Bool
  | .edit _ | .switchCurrency => true
  | .setup _ _ | .selectMethod _ => false

/-- The methods are set up at most once, and each selection comes after that. -/
structure Orderly (inputs : List AmountInput) : Prop where
  inOrder : InOrder inputs
  setUpFirst : ∀ before method after, inputs = before ++ .selectMethod method :: after →
    ∃ methods currency, .setup methods currency ∈ before

variable {inputs earlier : List AmountInput} {input : AmountInput}

/-- The first inputs of an orderly series are orderly. -/
theorem Orderly.of_initial (orderly : Orderly inputs) (initial : earlier <+: inputs) :
    Orderly earlier := by
  obtain ⟨rest, rfl⟩ := initial
  refine ⟨orderly.inOrder.sublist (List.sublist_append_left _ _), ?_⟩
  rintro before method after rfl
  exact orderly.setUpFirst before method (after ++ rest) (List.append_assoc _ _ _)

/-- The last input may select a method only after a setup. -/
theorem setUpFirst_concat (orderly : Orderly inputs)
    (last : ∀ method, input = .selectMethod method →
      ∃ methods currency, .setup methods currency ∈ inputs)
    (before : List AmountInput) (method : PaymentMethod) (after : List AmountInput)
    (same : inputs ++ [input] = before ++ .selectMethod method :: after) :
    ∃ methods currency, .setup methods currency ∈ before := by
  rcases List.eq_nil_or_concat after with rfl | ⟨front, final, rfl⟩
  · obtain ⟨rfl, ended⟩ := List.append_inj' same rfl
    exact last method (List.cons.inj ended).1
  · rw [List.concat_eq_append, ← List.cons_append, ← List.append_assoc] at same
    obtain ⟨rfl, _⟩ := List.append_inj' same rfl
    exact orderly.setUpFirst before method front rfl

/-- A series stays in order when an input other than the setup is added. -/
theorem inOrder_concat (orderly : Orderly inputs)
    (last : ∀ methods currency, input ≠ .setup methods currency) :
    InOrder (inputs ++ [input]) := by
  refine List.pairwise_append.mpr ⟨orderly.inOrder, List.pairwise_singleton _ _, ?_⟩
  intro one _ other member methods currency same
  rw [List.mem_singleton.mp member] at same
  exact (last methods currency same).elim

/-- An edit or a switch of sides may come at any time. -/
theorem Orderly.plain (orderly : Orderly inputs) (plain : input.isPlain = true) :
    Orderly (inputs ++ [input]) := by
  refine ⟨inOrder_concat orderly ?_, setUpFirst_concat orderly ?_⟩
  · rintro methods currency rfl
    cases plain
  · rintro method rfl
    cases plain

/-- A method may be chosen once the screen has been set up. -/
theorem Orderly.select (orderly : Orderly inputs) (method : PaymentMethod)
    (setUp : ∃ methods currency, .setup methods currency ∈ inputs) :
    Orderly (inputs ++ [.selectMethod method]) :=
  ⟨inOrder_concat orderly (by simp), setUpFirst_concat orderly fun _ _ => setUp⟩

/-- The setup may come before any choice of a method, if there has been none. -/
theorem Orderly.setup (orderly : Orderly inputs) (methods : List PaymentMethod)
    (currency : LocalCurrency)
    (plain : ∀ input ∈ inputs, input.isPlain = true) :
    Orderly (inputs ++ [.setup methods currency]) := by
  refine ⟨List.pairwise_append.mpr ⟨orderly.inOrder, List.pairwise_singleton _ _, ?_⟩,
    setUpFirst_concat orderly (by simp)⟩
  intro one member _ _ _ _ _
  refine ⟨?_, ?_⟩
  · rintro methods currency rfl
    cases plain _ member
  · rintro method rfl
    cases plain _ member

end AmountInput

/-- The input that a duty of a session hands over. -/
def SessionDuty.input? : SessionDuty → Option AmountInput
  | .forward input => some input
  | _ => none

/-- The input that a turn hands over. -/
def Pipeline.Turn.input? : Pipeline.Turn → Option AmountInput
  | .send input => some input
  | _ => none

namespace SessionRun

variable {settings : SessionSettings} {run next : SessionRun} {event : Move} {past : History}

/-- A moment adds the input that is handed over then, if there is one. -/
theorem sent_turns_cons (moment : Moment SessionRun Move) :
    Pipeline.sent (turns (moment :: past)) = Pipeline.sent (turns past)
      ++ ((moment.before.turn? moment.event).bind Pipeline.Turn.input?).toList := by
  cases turned : moment.before.turn? moment.event with
  | none => rw [turns_cons_none turned, Option.bind_none, Option.toList_none, List.append_nil]
  | some turn =>
      rw [turns_cons_some turned, Pipeline.sent, Pipeline.sent]
      cases turn with
      | send input => exact List.reverse_cons
      | _ => exact (List.append_nil _).symm

/-! ## What else goes on -/

/-- What everything but the session's own task leaves as it is. -/
structure Aside (run next : SessionRun) : Prop where
  methods : next.session.methods = run.session.methods
  duties : next.session.duties = run.session.duties
  phase : next.session.phase = run.session.phase
  setup : next.session.setup = .over ↔ run.session.setup = .over

/-- Only the session itself hands over inputs and plans them. -/
theorem aside_of_move
    (moved : run.move settings event = some next)
    (other : event ≠ .step .session) :
    Aside run next ∧ (run.turn? event).bind Pipeline.Turn.input? = none := by
  cases moveStep_of_move moved with
  | own _ => exact (other rfl).elim
  | askPipeline asks =>
      refine ⟨⟨rfl, rfl, rfl, .rfl⟩, ?_⟩
      rw [turn?_of_isBackground (isBackground_of_ask asks), asks]
      rfl
  | endPipeline silent finished =>
      refine ⟨⟨rfl, rfl, rfl, .rfl⟩, ?_⟩
      rw [turn?_of_isBackground (isBackground_of_finish finished), silent]
      rfl
  | askMethods loading _ | askCurrency loading _ _ | endSetup loading _ _ =>
      refine ⟨⟨rfl, rfl, rfl, ?_⟩, rfl⟩
      rw [loading]
      exact iff_of_false (fun same => by cases same) fun same => by cases same
  | answer =>
      refine ⟨⟨rfl, rfl, rfl, ?_⟩, rfl⟩
      simp only [hear]
      split
      · next loading =>
          rw [loading]
          exact iff_of_false (fun same => by cases same) fun same => by cases same
      · exact .rfl
  | _ => exact ⟨⟨rfl, rfl, rfl, .rfl⟩, rfl⟩

/-- A session that is open after such a move was open before. -/
theorem IsOpen.of_move (isOpen : next.IsOpen)
    (aside : Aside run next)
    (moved : run.move settings event = some next) : run.IsOpen where
  phase := aside.phase ▸ isOpen.phase
  up := by
    by_contra down
    have down := isDown_of_move moved ((Bool.not_eq_false _).mp down)
    rw [isOpen.up] at down
    cases down

/-! ## The invariant -/

/-- A method that the provider has offered in this session and that is supported. -/
def Offered (settings : SessionSettings) (past : History) (method : PaymentMethod) : Prop :=
  ∃ methods, MethodsLearned past methods ∧ method ∈ methods
    ∧ settings.gate.isSupported method.id = true

/-- A method that has been offered stays offered. -/
theorem Offered.mono {later : History} {method : PaymentMethod}
    (offered : Offered settings past method) (suffix : past <:+ later) :
    Offered settings later method := by
  obtain ⟨methods, learned, member, supported⟩ := offered
  exact ⟨methods, learned.mono suffix, member, supported⟩

/-- A currency that has been learned stays learned. -/
theorem CurrencyLearned.mono {later : History} {currency symbol : String}
    (learned : CurrencyLearned past currency symbol) (suffix : past <:+ later) :
    CurrencyLearned later currency symbol := by
  obtain ⟨value, learned⟩ := learned
  exact ⟨value, Learned.mono learned suffix⟩

/-- The inputs that have been handed over and those that are going to be. -/
def planned (past : History) (run : SessionRun) : List AmountInput :=
  Pipeline.sent (turns past) ++ run.session.duties.filterMap SessionDuty.input?

/-- What an open session plans. -/
structure PlansInOrder (inputs : List AmountInput) (session : Session) : Prop where
  orderly : AmountInput.Orderly inputs
  plain : session.setup ≠ .over → ∀ input ∈ inputs, input.isPlain = true
  setUp : session.methods ≠ [] → ∃ methods currency, .setup methods currency ∈ inputs

/-- Where everything comes from that a session hands over, and in which order it comes. -/
structure Disciplined (settings : SessionSettings) (past : History) (run : SessionRun) : Prop where
  offered : ∀ method ∈ run.session.methods, Offered settings past method
  introduced : ∀ methods currency, .setup methods currency ∈ planned past run →
    CurrencyLearned past currency.code currency.symbol
  selected : ∀ method, .selectMethod method ∈ planned past run → Offered settings past method
  sent : AmountInput.Orderly (Pipeline.sent (turns past))
  fresh : run.session.setup ≠ .over → run.session.methods = []
  plans : run.IsOpen → PlansInOrder (planned past run) run.session

/-- At the start nothing has been sent and nothing is planned. -/
theorem disciplined_start : Disciplined settings [] (start settings) where
  offered _ member := by cases member
  introduced _ _ member := by cases member
  selected _ member := by cases member
  sent := ⟨.nil, fun before method after same => by cases before <;> cases same⟩
  fresh _ := rfl
  plans _ := ⟨⟨.nil, fun before method after same => by cases before <;> cases same⟩,
    fun _ _ member => (by cases member), fun some => (some rfl).elim⟩

/-- A step that plans nothing new. -/
theorem Disciplined.keep
    (disciplined : Disciplined settings past run)
    (methods : next.session.methods = run.session.methods)
    (setup : next.session.setup ≠ .over → run.session.setup ≠ .over)
    (sent : Pipeline.sent (turns (⟨run, event⟩ :: past)) = Pipeline.sent (turns past))
    (plan : planned (⟨run, event⟩ :: past) next ⊆ planned past run)
    (plans : next.IsOpen → run.IsOpen ∧ planned (⟨run, event⟩ :: past) next = planned past run) :
    Disciplined settings (⟨run, event⟩ :: past) next where
  offered method member :=
    (disciplined.offered method (methods ▸ member)).mono (List.suffix_cons _ _)
  introduced methods currency member :=
    (disciplined.introduced methods currency (plan member)).mono (List.suffix_cons _ _)
  selected method member := (disciplined.selected method (plan member)).mono (List.suffix_cons _ _)
  sent := sent ▸ disciplined.sent
  fresh early := methods ▸ disciplined.fresh (setup early)
  plans isOpen := by
    obtain ⟨wasOpen, same⟩ := plans isOpen
    obtain ⟨orderly, plain, setUp⟩ := disciplined.plans wasOpen
    rw [same]
    exact ⟨orderly, fun early => plain (setup early), fun some => setUp (methods ▸ some)⟩

/-- A step that leaves what is planned as it is. -/
theorem Disciplined.keep_planned
    (disciplined : Disciplined settings past run)
    (methods : next.session.methods = run.session.methods)
    (setup : next.session.setup ≠ .over → run.session.setup ≠ .over)
    (sent : Pipeline.sent (turns (⟨run, event⟩ :: past)) = Pipeline.sent (turns past))
    (isOpen : next.IsOpen → run.IsOpen)
    (same : planned (⟨run, event⟩ :: past) next = planned past run) :
    Disciplined settings (⟨run, event⟩ :: past) next :=
  disciplined.keep methods setup sent (same ▸ List.Subset.refl _) fun still => ⟨isOpen still, same⟩

/-- A step that plans one more input. -/
theorem Disciplined.concat {input : AmountInput}
    (disciplined : Disciplined settings past run)
    (isOpen : run.IsOpen)
    (offered : ∀ method ∈ next.session.methods, Offered settings past method)
    (fresh : next.session.setup ≠ .over → next.session.methods = [])
    (sent : Pipeline.sent (turns (⟨run, event⟩ :: past)) = Pipeline.sent (turns past))
    (plan : planned (⟨run, event⟩ :: past) next = planned past run ++ [input])
    (introduced : ∀ methods currency, input = .setup methods currency →
      CurrencyLearned past currency.code currency.symbol)
    (selected : ∀ method, input = .selectMethod method → Offered settings past method)
    (orderly : PlansInOrder (planned past run) run.session →
      PlansInOrder (planned past run ++ [input]) next.session) :
    Disciplined settings (⟨run, event⟩ :: past) next where
  offered method member := (offered method member).mono (List.suffix_cons _ _)
  introduced methods currency member := by
    rw [plan] at member
    refine CurrencyLearned.mono ?_ (List.suffix_cons _ _)
    rcases List.mem_append.mp member with earlier | new
    · exact disciplined.introduced methods currency earlier
    · exact introduced methods currency (List.mem_singleton.mp new).symm
  selected method member := by
    rw [plan] at member
    refine Offered.mono ?_ (List.suffix_cons _ _)
    rcases List.mem_append.mp member with earlier | new
    · exact disciplined.selected method earlier
    · exact selected method (List.mem_singleton.mp new).symm
  sent := sent ▸ disciplined.sent
  fresh := fresh
  plans _ := plan ▸ orderly (disciplined.plans isOpen)

/-- A move in which the pipeline makes no turn hands over nothing. -/
theorem sent_of_hidden (past : History) (hidden : run.turn? event = none) :
    Pipeline.sent (turns (⟨run, event⟩ :: past)) = Pipeline.sent (turns past) := by
  rw [turns_cons_none hidden]

/-- A session with nothing left to do plans nothing beyond what it has sent. -/
theorem planned_of_free (free : run.session.duties = []) :
    planned past run = Pipeline.sent (turns past) := by
  rw [planned, free]
  exact List.append_nil _

/-- What an event asks for hands over at most one input. -/
theorem inputs_eventDuties (settings : SessionSettings) (session : Session) (state : ScreenState)
    (event : SessionEvent) :
    (session.eventDuties settings state event).filterMap SessionDuty.input? = []
      ∨ (∃ input : AmountInput, input.isPlain = true
        ∧ (session.eventDuties settings state event).filterMap SessionDuty.input? = [input])
      ∨ ∃ method ∈ session.methods,
        (session.eventDuties settings state event).filterMap SessionDuty.input?
          = [.selectMethod method] := by
  cases event with
  | amountChanged text => exact .inr (.inl ⟨.edit text, rfl, rfl⟩)
  | changeCurrencyClicked => exact .inr (.inl ⟨.switchCurrency, rfl, rfl⟩)
  | paymentMethodSelected id =>
      simp only [Session.eventDuties]
      split
      · exact .inl rfl
      · next method found => exact .inr (.inr ⟨method, List.mem_of_find?_eq_some found, rfl⟩)
  | nextClicked submission =>
      refine .inl ?_
      simp only [Session.eventDuties, Session.nextDuties]
      split
      · rfl
      · split
        · rfl
        · split <;> rfl
  | redirectReturned uid details data =>
      refine .inl ?_
      simp only [Session.eventDuties]
      split <;> rfl

/-- Taking an event. -/
theorem Disciplined.takes {taken : SessionEvent}
    (disciplined : Disciplined settings past run)
    (isOpen : run.IsOpen)
    (free : run.session.duties = [])
    (hidden : run.turn? (.step .session) = none)
    (methods : next.session.methods = run.session.methods)
    (setup : next.session.setup = run.session.setup)
    (duties : next.session.duties
      = run.session.eventDuties settings run.pipeline.state taken) :
    Disciplined settings (⟨run, .step .session⟩ :: past) next := by
  have sent : Pipeline.sent (turns (⟨run, .step .session⟩ :: past)) = Pipeline.sent (turns past) :=
    sent_of_hidden past hidden
  have before : planned past run = Pipeline.sent (turns past) := planned_of_free free
  have after : planned (⟨run, .step .session⟩ :: past) next = planned past run
      ++ (run.session.eventDuties settings run.pipeline.state taken).filterMap
        SessionDuty.input? := by
    rw [planned, sent, before, duties]
  have offered : ∀ method ∈ next.session.methods, Offered settings past method :=
    methods ▸ disciplined.offered
  have fresh : next.session.setup ≠ .over → next.session.methods = [] := by
    rw [methods, setup]
    exact disciplined.fresh
  rcases inputs_eventDuties settings run.session run.pipeline.state taken with
    nothing | ⟨input, plain, one⟩ | ⟨method, member, one⟩
  · rw [nothing, List.append_nil] at after
    exact disciplined.keep_planned methods (fun early => setup ▸ early) sent (fun _ => isOpen) after
  · rw [one] at after
    refine disciplined.concat isOpen offered fresh sent after ?_ ?_ fun plans => ?_
    · rintro _ _ rfl
      cases plain
    · rintro _ rfl
      cases plain
    · refine ⟨plans.orderly.plain plain, fun early other member => ?_, fun some => ?_⟩
      · rcases List.mem_append.mp member with earlier | new
        · exact plans.plain (setup ▸ early) other earlier
        · exact List.mem_singleton.mp new ▸ plain
      · obtain ⟨methods, currency, setUp⟩ := plans.setUp (methods ▸ some)
        exact ⟨methods, currency, List.mem_append_left _ setUp⟩
  · rw [one] at after
    have some : run.session.methods ≠ [] := List.ne_nil_of_mem member
    refine disciplined.concat isOpen offered fresh sent after ?_ ?_ fun plans => ?_
    · rintro _ _ same
      cases same
    · rintro _ same
      cases same
      exact disciplined.offered method member
    · obtain ⟨known, currency, setUp⟩ := plans.setUp some
      refine ⟨plans.orderly.select method ⟨known, currency, setUp⟩, fun early => ?_, fun _ => ?_⟩
      · exact (some (disciplined.fresh (setup ▸ early))).elim
      · exact ⟨known, currency, List.mem_append_left _ setUp⟩

/-- Taking the result of the setup. -/
theorem Disciplined.setsUp {methods : List PaymentMethod} {money : Money}
    (disciplined : Disciplined settings past run)
    (isOpen : run.IsOpen)
    (free : run.session.duties = [])
    (hidden : run.turn? (.step .session) = none)
    (early : run.session.setup ≠ .over)
    (learned : MethodsLearned past methods ∧ CurrencyLearned past money.currency money.symbol)
    (ended : next.session.setup = .over)
    (offers : next.session.methods = settings.gate.filterSupported methods)
    (duties : next.session.duties
      = Session.setupDuties (settings.gate.filterSupported methods) money) :
    Disciplined settings (⟨run, .step .session⟩ :: past) next := by
  have sent : Pipeline.sent (turns (⟨run, .step .session⟩ :: past)) = Pipeline.sent (turns past) :=
    sent_of_hidden past hidden
  have after : planned (⟨run, .step .session⟩ :: past) next = planned past run
      ++ [.setup (settings.gate.filterSupported methods) ⟨money.currency, money.symbol⟩] := by
    rw [planned, sent, planned_of_free free, duties]
    rfl
  refine disciplined.concat isOpen (fun method member => ?_) (fun notOver => (notOver ended).elim)
    sent after ?_ ?_ fun plans => ?_
  · rw [offers] at member
    obtain ⟨known, supported⟩ := List.mem_filter.mp member
    exact ⟨methods, learned.1, known, supported⟩
  · rintro _ _ same
    cases same
    exact learned.2
  · rintro _ same
    cases same
  · exact ⟨plans.orderly.setup _ _ (plans.plain early), fun notOver => (notOver ended).elim,
      fun _ => ⟨_, _, List.mem_append_right _ (List.mem_singleton.mpr rfl)⟩⟩

/-- Handing an input over moves it from what is planned to what has been sent. -/
theorem Disciplined.forwards {input : AmountInput} {rest : List SessionDuty}
    (disciplined : Disciplined settings past run)
    (isOpen : run.IsOpen)
    (head : run.session.duties = .forward input :: rest)
    (shown : run.turn? (.step .session) = some (.send input))
    (methods : next.session.methods = run.session.methods)
    (setup : next.session.setup = run.session.setup)
    (duties : next.session.duties = rest) :
    Disciplined settings (⟨run, .step .session⟩ :: past) next := by
  have sent : Pipeline.sent (turns (⟨run, .step .session⟩ :: past))
      = Pipeline.sent (turns past) ++ [input] := by
    rw [sent_turns_cons, shown]
    rfl
  have after : planned (⟨run, .step .session⟩ :: past) next = planned past run := by
    rw [planned, planned, sent, duties, head, List.append_assoc]
    rfl
  obtain ⟨orderly, plain, setUp⟩ := disciplined.plans isOpen
  refine ⟨fun method member => ?_, fun known currency member => ?_, fun method member => ?_, ?_,
    fun early => ?_, fun _ => ?_⟩
  · exact (disciplined.offered method (methods ▸ member)).mono (List.suffix_cons _ _)
  · exact (disciplined.introduced known currency (after ▸ member)).mono (List.suffix_cons _ _)
  · exact (disciplined.selected method (after ▸ member)).mono (List.suffix_cons _ _)
  · refine orderly.of_initial ?_
    rw [← after, planned]
    exact List.prefix_append _ _
  · exact methods ▸ disciplined.fresh (setup ▸ early)
  · rw [after]
    exact ⟨orderly, fun early => plain (setup ▸ early), fun some => setUp (methods ▸ some)⟩

/-- Every step of the session keeps its discipline. -/
theorem Disciplined.ownStep
    (disciplined : Disciplined settings past run)
    (reached : Reaches (SessionRun.move settings) (start settings) past run)
    (step : OwnStep settings run next) :
    Disciplined settings (⟨run, .step .session⟩ :: past) next := by
  cases step with
  | closes phase free down =>
      have sent : Pipeline.sent (turns (⟨run, .step .session⟩ :: past))
          = Pipeline.sent (turns past) := by
        rw [sent_turns_cons, turn?_of_closes phase free down]
        exact List.append_nil _
      refine disciplined.keep rfl (fun early => (early rfl).elim) sent ?_ fun isOpen => ?_
      · rw [planned, sent]
        exact List.Subset.refl _
      · cases isOpen.phase
  | rejects isOpen free loaded =>
      have sent := sent_of_hidden past (turn?_of_free isOpen free)
      refine disciplined.keep_planned rfl (fun early => (early rfl).elim) sent (fun _ => isOpen) ?_
      rw [planned, sent]
      rfl
  | setsUp isOpen free loaded =>
      have early : run.session.setup ≠ .over := by
        rw [loaded]
        exact fun same => by cases same
      exact disciplined.setsUp isOpen free (turn?_of_free isOpen free) early
        ((setupFollows_of_reaches reached).loaded _ _ loaded) rfl rfl rfl
  | event isOpen free _ _ =>
      exact disciplined.takes isOpen free (turn?_of_free isOpen free) rfl rfl rfl
  | @drops input rest phase head lost =>
      have sent := sent_of_hidden past (turn?_of_drops phase head lost)
      refine disciplined.keep rfl id sent ?_ fun isOpen => ?_
      · rw [planned, planned, sent, head]
        exact List.append_subset.mpr ⟨List.subset_append_left _ _, fun _ member =>
          List.mem_append_right _ (List.mem_cons_of_mem _ member)⟩
      · -- An input is lost only when the screen goes down, so the session is no longer open.
        have down : run.sink.shutdown.isDown = true := by
          rcases lost with down | stopped
          · exact down
          · exact isDown_of_stopped reached (.inl stopped)
        cases isOpen.up.symm.trans down
  | forwards isOpen head running =>
      exact disciplined.forwards isOpen head (turn?_of_forwards isOpen head running) rfl rfl rfl
  | waits phase head =>
      have sent := sent_of_hidden past (turn?_of_head phase head (by simp))
      have same := Sink.shutdown_emit run.sink TaskName.session
      refine disciplined.keep_planned rfl id sent (fun isOpen => ⟨phase, ?_⟩) ?_
      · exact same _ ▸ isOpen.up
      · rw [planned, sent]
        rfl
  | tells phase head =>
      have sent := sent_of_hidden past (turn?_of_head phase head (by simp))
      have same := Sink.shutdown_emit run.sink TaskName.session
      refine disciplined.keep_planned rfl id sent (fun isOpen => ⟨phase, ?_⟩) ?_
      · exact same _ ▸ isOpen.up
      · rw [planned, planned, sent, head]
        rfl
  | pays phase head =>
      have sent := sent_of_hidden past (turn?_of_head phase head (by simp))
      refine disciplined.keep_planned rfl id sent (fun isOpen => ⟨phase, isOpen.up⟩) ?_
      rw [planned, planned, sent, head]
      rfl
  | ends closing _ =>
      have sent := sent_of_hidden past (turn?_of_closing closing)
      refine disciplined.keep rfl id sent ?_ fun isOpen => ?_
      · rw [planned, sent]
        exact List.Subset.refl _
      · cases isOpen.phase

/-- **What a session hands to its pipeline comes in order and from where it should.** -/
theorem disciplined_of_reaches
    (reached : Reaches (SessionRun.move settings) (start settings) past run) :
    Disciplined settings past run := by
  induction reached with
  | start => exact disciplined_start
  | @step past middle next event earlier moved ih =>
      by_cases own : event = .step .session
      · subst own
        cases moveStep_of_move moved with
        | own step => exact ih.ownStep earlier step
        | askPipeline asks => cases isBackground_of_ask asks
        | endPipeline _ finished => cases isBackground_of_finish finished
      · obtain ⟨aside, silent⟩ := aside_of_move moved own
        have sent : Pipeline.sent (turns (⟨middle, event⟩ :: past))
            = Pipeline.sent (turns past) := by
          rw [sent_turns_cons, silent]
          exact List.append_nil _
        have same : planned (⟨middle, event⟩ :: past) next = planned past middle := by
          rw [planned, planned, sent, aside.duties]
        exact ih.keep_planned aside.methods (fun early ended => early (aside.setup.mpr ended)) sent
          (fun isOpen => isOpen.of_move aside moved) same

end SessionRun

end WalletTopUp
