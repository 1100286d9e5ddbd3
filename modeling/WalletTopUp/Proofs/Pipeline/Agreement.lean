import WalletTopUp.Proofs.Pipeline.Contract
import WalletTopUp.Proofs.Screen.Gate

/-!
# What a pipeline agrees on

The parts of a pipeline that are at rest agree with each other: an armed deadline or a conversion
under way belongs to an unsettled amount, a bonus to an amount within the limits, and, as long as
the payment methods are set up before one is selected, the verdict on a settled amount is the one
that its limits give, and the presentation layer has been told whether the amount may be submitted
(`Pipeline.AtRest`).  While duties are left, each of them finds what it needs (`Pipeline.Before`).
Both together are a contract that every run keeps (`Pipeline.agreement_kept`).

`orderly` says whether the inputs come in the order in which a session hands them over.  What does
not depend on it holds for every order.
-/

namespace WalletTopUp

namespace Pipeline

variable {orderly : Prop} {settings : PipelineSettings} {told : List Effect}
  {pipeline earlier later : Pipeline}

/-! ## The contract -/

/-- Nothing is under way, and the other side is about to be derived. -/
structure AwaitsDerived (pipeline : Pipeline) : Prop where
  unsettled : pipeline.state.settled = false
  unchecked : pipeline.state.bounds = none
  unrewarded : pipeline.state.bonus = none
  unarmed : pipeline.debouncer.deadline = none
  notConverting : ¬ pipeline.Converting
  notForecasting : ¬ pipeline.Forecasting

/-- What holds before a duty is done. -/
def Before (orderly : Prop) (duty : Duty) (pipeline : Pipeline) : Prop :=
  match duty with
  | .publish (.setupLoaded _ _) => orderly → pipeline.state.selectedMethod = none
  | .publish (.amountEdited text) =>
    (AmountValue.ofText? text).isSome ∧ ¬ pipeline.Converting ∧ ¬ pipeline.Forecasting
  | .publish (.conversionSettled _) | .settle _ | .convert => pipeline.AwaitsDerived
  | .publish (.limitsLoaded _) => pipeline.state.limits = none
  | .publish (.boundsValidated bounds) =>
    pipeline.state.settled = true ∧ pipeline.state.verdict = some bounds
  | .publish .currencySwitched =>
    .rearm ∈ pipeline.duties ∧ (pipeline.Converting → pipeline.state.settled = false)
  | .emit effect =>
    (effect = .setSubmitEnabled true → Gate.canSubmit pipeline.state = true)
      ∧ (orderly → pipeline.state.bounds = none
          ∨ pipeline.state.bounds = pipeline.state.verdict)
  | _ => True

/-- What holds when there is nothing left to do of what was taken last. -/
structure AtRest (orderly : Prop) (told : List Effect) (pipeline : Pipeline) : Prop where
  loading : pipeline.limits ≠ .idle → pipeline.state.limits = none
  unsettled : pipeline.state.settled = false →
    pipeline.state.bounds = none ∧ pipeline.state.bonus = none ∧ ¬ pipeline.Forecasting
  armed : pipeline.debouncer.deadline ≠ none →
    pipeline.state.settled = false ∧ ¬ pipeline.Converting
  converting : pipeline.Converting → pipeline.state.settled = false
  rewarded : pipeline.Forecasting ∨ pipeline.state.bonus ≠ none →
    pipeline.state.bounds = some .within ∧ pipeline.state.entry.fiat.positive? ≠ none
  checked : orderly → pipeline.state.settled = true →
    pipeline.state.bounds = pipeline.state.verdict
  shown : orderly → ¬ pipeline.Forecasting → shown told = Gate.canSubmit pipeline.state

/-- The methods are set up before one of them is selected. -/
def Admits (orderly : Prop) (input : AmountInput) (pipeline : Pipeline) : Prop :=
  match input with
  | .setup _ _ => orderly → pipeline.state.selectedMethod = none
  | _ => True

theorem AtRest.background (atRest : AtRest orderly told earlier)
    (background : Background earlier later) : AtRest orderly told later := by
  obtain ⟨loading, unsettled, armed, converting, rewarded, checked, shown⟩ := atRest
  rw [← background.state] at loading unsettled armed converting rewarded checked shown
  refine ⟨fun busy => loading fun idle => busy (background.limits.mpr idle), ?_, ?_, ?_, ?_,
    checked, ?_⟩
  · rw [background.forecasting]
    exact unsettled
  · rw [background.debouncer]
    exact fun set => ⟨(armed set).1, fun still => (armed set).2 (background.converting still)⟩
  · exact fun still => converting (background.converting still)
  · rw [background.forecasting]
    exact rewarded
  · rw [background.forecasting]
    exact shown

theorem AwaitsDerived.background (awaits : earlier.AwaitsDerived)
    (background : Background earlier later) : later.AwaitsDerived := by
  obtain ⟨unsettled, unchecked, unrewarded, unarmed, notConverting, notForecasting⟩ := awaits
  rw [← background.state] at unsettled unchecked unrewarded
  exact ⟨unsettled, unchecked, unrewarded, background.debouncer ▸ unarmed,
    fun still => notConverting (background.converting still),
    fun still => notForecasting (background.forecasting.mp still)⟩

theorem Before.background {duty : Duty} (before : Before orderly duty earlier)
    (background : Background earlier later) : Before orderly duty later := by
  have state := background.state
  unfold Before at before ⊢
  split at before
  · exact state ▸ before
  · exact ⟨before.1, fun still => before.2.1 (background.converting still),
      fun still => before.2.2 (background.forecasting.mp still)⟩
  · exact before.background background
  · exact before.background background
  · exact before.background background
  · exact state ▸ before
  · exact state ▸ before
  · exact ⟨background.duties ▸ before.1,
      fun still => state ▸ before.2 (background.converting still)⟩
  · exact state ▸ before
  · trivial

/-- **The agreement**, as a contract for the duties of a pipeline. -/
def agreement (orderly : Prop) : Contract where
  atRest := AtRest orderly
  before := Before orderly
  admits := Admits orderly
  atRest_background background atRest := atRest.background background
  before_background background before := before.background background

end Pipeline

end WalletTopUp
