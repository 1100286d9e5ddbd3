import WalletTopUp.Proofs.Pipeline.Inputs

/-!
# The submit control

The presentation layer is told whether the amount may be submitted when an amount is edited, when an
amount fails the check against the limits, and when a bonus comes; in between the state changes in
many other ways.  It is never told that a state may be submitted that may not, and a pipeline with
nothing left to do has always told it the truth (`PipelineRun.submit_control_truthful`).
-/

namespace WalletTopUp

namespace Pipeline

variable {settings : PipelineSettings} {pipeline : Pipeline} {past : History}

/-- The pipeline waits for something new to happen: nothing is waiting for it, nothing is under way
whose result it would still take over, and it has not been shut down. -/
structure IsIdle (pipeline : Pipeline) : Prop where
  running : pipeline.running = true
  free : pipeline.duties = []
  noInput : pipeline.inputs = []
  unarmed : pipeline.debouncer.deadline = none
  noLimits : ∀ exchange, pipeline.limits ≠ .loading exchange
  noConversion : ∀ work, pipeline.conversions.current = some work →
    pipeline.conversions.isCurrent work.ticket = false
  noBonus : ∀ work, pipeline.bonuses.current = some work →
    pipeline.bonuses.isCurrent work.ticket = false
  noCompletion : pipeline.completions = []

theorem IsIdle.notForecasting (idle : pipeline.IsIdle) : ¬ pipeline.Forecasting := by
  intro forecasting
  rcases forecasting_iff.mp forecasting with ⟨work, current, latest⟩ | reported
  · have stale := idle.noBonus work current
    rw [SwitchLatest.isCurrent_iff.mpr latest] at stale
    cases stale
  · rw [reportedBonuses, idle.noCompletion] at reported
    cases reported

/-- An effect is handed over by a step of the pipeline's own task. -/
theorem duties_of_told? {moment : Moment Pipeline Turn} {effect : Effect}
    (tells : told? moment = some effect) :
    (∃ now sink, moment.event = .own now sink) ∧
      ∃ rest, moment.before.duties = .emit effect :: rest := by
  unfold told? at tells
  split at tells
  · next now sink head rest event duties =>
      split at tells
      · cases tells
      · obtain rfl := Option.some.inj tells
        exact ⟨⟨now, sink, event⟩, rest, duties⟩
  · cases tells

/-- What is told about the submit control is true when it is told. -/
theorem canSubmit_of_told {moment : Moment Pipeline Turn}
    (reached : Reaches (Pipeline.turn settings) (start settings) past pipeline)
    (inOrder : AmountInput.InOrder (sent past))
    (member : moment ∈ past)
    (tells : told? moment = some (.setSubmitEnabled true)) :
    Gate.canSubmit moment.before.state = true := by
  obtain ⟨earlier, after, suffix, reachedEarlier, moved⟩ := reached.exists_of_mem member
  obtain ⟨⟨now, sink, event⟩, rest, head⟩ := duties_of_told? tells
  rw [event] at moved
  have inOrderEarlier : AmountInput.InOrder (sent earlier) :=
    inOrder.sublist (sent_initial ((List.suffix_cons _ _).trans suffix)).sublist
  have ready := ready_of_inOrder reachedEarlier inOrderEarlier (ownStep_of_turn moved).1
  exact (ready.before head).1 rfl

/-- A pipeline at rest that waits for no forecast has told the truth. -/
theorem shown_eq_canSubmit
    (reached : Reaches (Pipeline.turn settings) (start settings) past pipeline)
    (inOrder : AmountInput.InOrder (sent past))
    (running : pipeline.running = true)
    (free : pipeline.duties = [])
    (notForecasting : ¬ pipeline.Forecasting) :
    shown (told past) = Gate.canSubmit pipeline.state :=
  ((ready_of_inOrder reached inOrder running).atRest free).shown trivial notForecasting

end Pipeline

namespace PipelineRun

/-- **The submit control always ends up showing the truth.**  In every run in which the methods are
set up at most once and none is selected before that, however the services answer and whatever comes
in between: the presentation layer is told that the amount may be submitted only in a state that may
be submitted, and whenever the pipeline is idle, what it was told last is what the state says. -/
theorem submit_control_truthful {settings : PipelineSettings}
    {past : List (Moment PipelineRun Move)} {run : PipelineRun}
    (reached : Reaches (PipelineRun.move settings) (PipelineRun.start settings) past run)
    (inOrder : AmountInput.InOrder (Pipeline.sent (turns past))) :
    (∀ moment ∈ turns past, Pipeline.told? moment = some (.setSubmitEnabled true) →
        Gate.canSubmit moment.before.state = true)
      ∧ (run.pipeline.IsIdle →
          Pipeline.shown (Pipeline.told (turns past)) = Gate.canSubmit run.pipeline.state) := by
  have reachedTurns := reaches_turns reached
  refine ⟨fun moment member tells => ?_, fun idle => ?_⟩
  · exact Pipeline.canSubmit_of_told reachedTurns inOrder member tells
  · exact Pipeline.shown_eq_canSubmit reachedTurns inOrder idle.running idle.free
      idle.notForecasting

/-! ## A run that ends with an amount that may be submitted -/

/-- The input that a move hands to the pipeline. -/
def Move.input? : Move → Option AmountInput
  | .send input => some input
  | _ => none

/-- The inputs that a pipeline has been handed are those of the moves. -/
theorem sent_turns (past : List (Moment PipelineRun Move)) :
    Pipeline.sent (turns past) = (past.map Moment.event).reverse.filterMap Move.input? := by
  have same : ∀ moment : Moment PipelineRun Move,
      ((moment.before.turn? moment.event).map (Moment.mk moment.before.pipeline)).bind
        Pipeline.sent? = Move.input? moment.event := by
    rintro ⟨before, event⟩
    cases event with
    | step task =>
        simp only [turn?]
        split <;> rfl
    | _ => rfl
  rw [Pipeline.sent, turns, List.filterMap_filterMap, ← List.map_reverse, List.filterMap_map,
    ← List.filterMap_reverse]
  exact congrFun (congrArg List.filterMap (funext same)) _

/-- A number without decimal places. -/
def Sample.whole (number : Nat) : Decimal := (Decimal.ofParts? false number 0).getD .zero

/-- Services that answer every question. -/
def Sample.server : Server
  | .quote _ _ target => .ok ⟨whole 200, target.getD "EUR", ""⟩
  | .limits currency => .ok ⟨⟨whole 5, currency, ""⟩, ⟨whole 500, currency, ""⟩⟩
  | .forecast _ _ => .ok ⟨.active, whole 3, tokenCode⟩
  | .wallet => .ok "0x1"
  | .partner _ _ => .ok "0x2"
  | .methods => .ok [{ id := "paypal", label := "PayPal" }, { id := "sofort", label := "Sofort" }]
  | .info _ _ _ _ => .error .noWallet
  | .pay _ => .ok { uid := some "tx", status := some .completed }
  | .redirect _ _ _ _ => .error .noWallet
  | .transaction _ _ => .error .noWallet
  | .disable _ => .ok ()
  | .saveRate _ _ => .ok ()
  | .loadRate _ => .ok none

/-- A number of steps of the pipeline's own task. -/
def Sample.own (count : Nat) : List Move := List.replicate count (.step .pipeline)

/-- Methods are set up, one is selected, ten euros are typed, and every question is answered. -/
def Sample.moves : List Move :=
  [Move.send (.setup [{ id := "paypal", label := "PayPal" }] ⟨"EUR", "€"⟩)] ++ own 3
    ++ [Move.step .limits, .answer 0 server, .step .limits] ++ own 3
    ++ [Move.send (.selectMethod { id := "paypal", label := "PayPal" })] ++ own 3
    ++ [Move.send (.edit "10")] ++ own 6 ++ [Move.advance 700] ++ own 2
    ++ [Move.step .conversion, .answer 1 server, .step .conversion] ++ own 10
    ++ [Move.step .bonus, .answer 2 server, .step .bonus, .answer 3 server, .step .bonus] ++ own 5

/-- The run that these moves make. -/
def Sample.run : PipelineRun := ((start {}).moves {} moves).getD (start {})

theorem Sample.moves_run : (start {}).moves {} moves = some run := by rfl

theorem Sample.reaches_run :
    ∃ past, Reaches (PipelineRun.move {}) (start {}) past run
      ∧ AmountInput.InOrder (Pipeline.sent (turns past)) := by
  obtain ⟨past, reached, events⟩ := reaches_of_moves moves_run
  refine ⟨past, reached, ?_⟩
  rw [sent_turns, events, List.reverse_reverse]
  change List.Pairwise _ [AmountInput.setup _ _, .selectMethod _, .edit _]
  simp only [List.pairwise_cons, List.mem_cons, List.not_mem_nil, or_false, forall_eq_or_imp,
    forall_eq, reduceCtorEq, IsEmpty.forall_iff, implies_true, List.Pairwise.nil, and_self]

theorem submit_control_truthful_of_submittable :
    ∃ past, Reaches (PipelineRun.move {}) (start {}) past Sample.run
      ∧ AmountInput.InOrder (Pipeline.sent (turns past))
      ∧ Sample.run.pipeline.IsIdle
      ∧ Gate.canSubmit Sample.run.pipeline.state = true
      ∧ Pipeline.shown (Pipeline.told (turns past)) = Gate.canSubmit Sample.run.pipeline.state := by
  obtain ⟨past, reached, inOrder⟩ := Sample.reaches_run
  have idle : Sample.run.pipeline.IsIdle := by
    refine ⟨rfl, rfl, rfl, rfl, fun exchange same => ?_, fun work same => ?_, fun work same => ?_,
      rfl⟩
    · cases show LimitsLoad.idle = .loading exchange from same
    · cases show none = some work from same
    · cases show none = some work from same
  exact ⟨past, reached, inOrder, idle, rfl, (submit_control_truthful reached inOrder).2 idle⟩

end PipelineRun

end WalletTopUp
