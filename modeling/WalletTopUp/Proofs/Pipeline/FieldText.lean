import WalletTopUp.Proofs.Pipeline.Conversions
import WalletTopUp.Proofs.Screen.FieldText

/-!
# The amount field of a pipeline

The state of a pipeline is what the actions that it has published make of an empty screen
(`Pipeline.state_eq_foldl`), and no derived amount that it publishes is a zero which is not held as
zero (`Pipeline.settlesProperly_of_reaches`).  So the text of the amount field stands for the source
amount in every run (`field_text_means_source`).
-/

namespace WalletTopUp

namespace Pipeline

variable {settings : PipelineSettings} {pipeline next : Pipeline} {past : History}

/-! ## What a pipeline has published -/

/-- The action that a moment's step publishes, if it publishes one. -/
def publication? (moment : Moment Pipeline Turn) : Option ScreenAction :=
  match moment.event, moment.before.duties with
  | .own _ _, .publish action :: _ => some action
  | _, _ => none

/-- The actions that a pipeline has published, in the order in which they came. -/
def publications (past : History) : List ScreenAction := (past.filterMap publication?).reverse

theorem publications_cons (moment : Moment Pipeline Turn) (past : History) :
    publications (moment :: past) = publications past ++ (publication? moment).toList :=
  reverse_filterMap_cons publication? moment past

theorem does_of_publication? {moment : Moment Pipeline Turn} {action : ScreenAction}
    (publishes : publication? moment = some action) : Does (.publish action) moment := by
  unfold publication? at publishes
  split at publishes
  · next now sink _ rest own head =>
      obtain rfl := Option.some.inj publishes
      exact ⟨⟨now, sink, own⟩, rest, head⟩
  · cases publishes

/-- A step of the pipeline's own task changes the state by what it publishes. -/
theorem OwnStep.state_eq {now : Instant} {sink : Sink TaskName}
    (step : OwnStep settings now sink pipeline next) :
    next.state
      = (publication? ⟨pipeline, .own now sink⟩).toList.foldl ScreenState.next pipeline.state := by
  cases step with
  | stops free _ | input free _ => simp only [publication?, free]; rfl
  | deadline caughtUp _ | completion caughtUp _ => simp only [publication?, caughtUp.1]; rfl
  | waits head _ | tells head _ => simp only [publication?, head]; rfl
  | @performs duty rest head _ =>
      rw [(performed settings now pipeline duty rest).state]
      cases duty <;> simp only [publication?, head, published] <;> rfl

/-- A step in the background leaves the state as it is. -/
theorem BackgroundStep.state_eq {turn : Turn} (step : BackgroundStep pipeline turn next) :
    next.state
      = (publication? ⟨pipeline, turn⟩).toList.foldl ScreenState.next pipeline.state := by
  cases step <;> rfl

/-- **The state of a pipeline is what its publications make of an empty screen.** -/
theorem state_eq_foldl
    (reached : Reaches (Pipeline.turn settings) (start settings) past pipeline) :
    pipeline.state = (publications past).foldl ScreenState.next {} := by
  induction reached with
  | start => rfl
  | step earlier moved ih =>
      rw [publications_cons, List.foldl_append, ← ih]
      rcases step_of_turn moved with ⟨now, sink, rfl, _, step⟩ | step
      · exact step.state_eq
      · exact step.state_eq

/-- **A pipeline publishes no derived zero that is not held as zero.** -/
theorem settlesProperly_of_reaches {action : ScreenAction}
    (reached : Reaches (Pipeline.turn settings) (start settings) past pipeline)
    (member : action ∈ publications past) : action.SettlesProperly := by
  obtain ⟨moment, inside, publishes⟩ := List.mem_filterMap.mp (List.mem_reverse.mp member)
  obtain ⟨_, rest, head⟩ := does_of_publication? publishes
  obtain ⟨earlier, _, _, reachedThen, _⟩ := reached.exists_of_mem inside
  rintro derived rfl
  exact ((converted_of_reaches reachedThen).publishing derived
    (head ▸ List.mem_cons_self)).isProper

end Pipeline

/-! ## The text of the amount field -/

/-- **The text of the amount field always means the source amount.**  Whatever happens to a screen
from its start, in any order, as long as no derived amount is a zero that is not held as zero:

* The text of the field is accepted, and it stands for the amount of the selected side, with the
  same scale.
* Typing the text of the field once more leaves that amount as it is.

The text that the screen shows for a known amount is read as this amount, with the same scale,
whatever its sign is.  The condition holds of everything that a pipeline publishes, in every run,
and the state of the run is what its publications make of an empty screen. -/
theorem field_text_means_source {actions : List ScreenAction}
    (proper : ∀ action ∈ actions, action.SettlesProperly) :
    AmountValue.ofText? (actions.foldl ScreenState.next {}).entry.rawText
        = some (actions.foldl ScreenState.next {}).entry.source
      ∧ ((actions.foldl ScreenState.next {}).next
            (.amountEdited (actions.foldl ScreenState.next {}).entry.rawText)).entry.source
          = (actions.foldl ScreenState.next {}).entry.source
      ∧ (∀ amount : Decimal, amount.isZero = false →
          AmountValue.ofText? (AmountValue.value amount).display = some (.value amount))
      ∧ ∀ settings past run,
          Reaches (PipelineRun.move settings) (PipelineRun.start settings) past run →
          (∀ action ∈ Pipeline.publications (PipelineRun.turns past), action.SettlesProperly)
            ∧ run.pipeline.state
                = (Pipeline.publications (PipelineRun.turns past)).foldl ScreenState.next {} := by
  have shown := ScreenState.showsSource_foldl ScreenState.showsSource_start proper
  refine ⟨shown.reads, ScreenState.source_next_amountEdited shown.reads,
    fun _ nonzero => AmountValue.ofText?_display nonzero,
    fun settings past run reached => ⟨fun action member => ?_, ?_⟩⟩
  · exact Pipeline.settlesProperly_of_reaches (PipelineRun.reaches_turns reached) member
  · exact Pipeline.state_eq_foldl (PipelineRun.reaches_turns reached)

/-- An amount is typed, `-200.50` is derived from it, the sides are switched, and something is typed
that is no amount. -/
def ScreenState.Sample.retexted : List ScreenAction :=
  [.amountEdited "10", .conversionSettled (.value ((Decimal.ofParts? true 20050 2).getD .zero)),
    .currencySwitched, .amountEdited "1e3"]

theorem field_text_means_source_of_switch :
    (∀ action ∈ ScreenState.Sample.retexted, action.SettlesProperly)
      ∧ (ScreenState.Sample.retexted.foldl ScreenState.next {}).entry.rawText = "-200.50"
      ∧ AmountValue.ofText? "-200.50"
          = some (ScreenState.Sample.retexted.foldl ScreenState.next {}).entry.source := by
  have proper : ∀ action ∈ ScreenState.Sample.retexted, action.SettlesProperly := by
    simp only [ScreenState.Sample.retexted, List.forall_mem_cons, List.not_mem_nil,
      ScreenAction.SettlesProperly, reduceCtorEq, false_implies, implies_true, and_true, true_and]
    rintro _ same amount rfl
    cases same
    rfl
  have text :
      (ScreenState.Sample.retexted.foldl ScreenState.next {}).entry.rawText = "-200.50" := by
    decide +kernel
  have means := (field_text_means_source proper).1
  rw [text] at means
  exact ⟨proper, text, means⟩

end WalletTopUp
