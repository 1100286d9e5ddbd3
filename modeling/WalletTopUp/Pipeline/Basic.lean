import WalletTopUp.Rates.Conversion
import WalletTopUp.Screen.Gate
import WalletTopUp.Screen.Sink
import WalletTopUp.Service.Exchange
import WalletTopUp.Timing.Debouncer
import WalletTopUp.Timing.SwitchLatest

/-!
# The amount pipeline

What the amount half of a top-up screen knows and still has to do.  Typed amounts are debounced and
converted; a converted amount is checked against the limits; an amount within the limits gets a
bonus forecast, which in turn decides whether it may be submitted.

Handling an input, a deadline or the end of a background task is a list of duties that are done one
at a time.  Each duty that changes the screen state publishes it, and only a duty that emits an
effect may have to wait.
-/

namespace WalletTopUp

/-- An input of the pipeline. -/
inductive AmountInput where
  /-- Payment methods and local currency are known. -/
  | setup (methods : List PaymentMethod) (currency : LocalCurrency)
  /-- The text of the amount field is now this one. -/
  | edit (text : String)
  | switchCurrency
  | selectMethod (method : PaymentMethod)
deriving DecidableEq, Inhabited

/-- What a background task reports when it ends. -/
inductive Completion where
  | converted (ticket : Ticket) (derived : AmountValue)
  | limitsLoaded (limits : Option TopUpLimits)
  | bonusLoaded (ticket : Ticket) (bonus : Option BonusForecast)
deriving DecidableEq, Inhabited

/-- A step of handling an input, a deadline or a completion. -/
inductive Duty where
  /-- Change the screen state and publish it. -/
  | publish (action : ScreenAction)
  /-- Tell the presentation layer. -/
  | emit (effect : Effect)
  /-- Tell which side the user types in. -/
  | announceSide
  /-- Tell both amounts. -/
  | announceAmounts
  /-- Tell whether the state may be submitted. -/
  | announceSubmit
  | cancelConversion
  | cancelBonus
  /-- Begin the quiet period. -/
  | arm
  /-- Convert anew after a switch of sides, unless the other side is settled. -/
  | rearm
  /-- Derive the other side. -/
  | convert
  /-- Take over what has been derived. -/
  | settle (derived : AmountValue)
  /-- Check the fiat amount against the limits. -/
  | validate
  /-- Check a settled amount against the limits of a newly selected method. -/
  | revalidate
  /-- Check a settled amount that has been waiting for the limits. -/
  | validateWaiting
  /-- Ask for the bonus of the fiat amount. -/
  | forecast
  /-- Ask for the limits. -/
  | loadLimits
deriving DecidableEq, Inhabited

/-- How a pipeline works. -/
structure PipelineSettings where
  converter : Converter := {}
  /-- Decimal places of the derived side. -/
  conversionScale : Nat := 2
  /-- Decimal places of the tokens that a bonus is asked for. -/
  bonusScale : Nat := 18
  /-- Milliseconds that the input has to be quiet before it is converted. -/
  window : Nat := 700
  package : String := ""
deriving DecidableEq, Inhabited

/-- A background task and the ticket that its result will carry. -/
structure Ticketed (α : Type) where
  ticket : Ticket
  exchange : Exchange α

/-- How far loading the limits has got. -/
inductive LimitsLoad where
  | idle
  | loading (exchange : Exchange (Option TopUpLimits))
  /-- The task has ended and its result is waiting to be handled. -/
  | reported

/-- The amount half of a top-up screen. -/
structure Pipeline where
  /-- The published state. -/
  state : ScreenState := {}
  debouncer : Debouncer
  conversions : SwitchLatest (Ticketed ConversionResult) := {}
  bonuses : SwitchLatest (Ticketed (Option BonusForecast)) := {}
  limits : LimitsLoad := .idle
  /-- Results of background tasks, in the order of their arrival. -/
  completions : List Completion := []
  /-- Inputs that have not been taken yet. -/
  inputs : List AmountInput := []
  /-- Whether more inputs may come. -/
  inputsOpen : Bool := true
  /-- What is left to do of the input, deadline or completion taken last. -/
  duties : List Duty := []
  /-- Whether the pipeline has not been shut down. -/
  running : Bool := true

namespace Pipeline

/-- A new pipeline. -/
def start (settings : PipelineSettings) : Pipeline :=
  { debouncer := { window := settings.window } }

/-! ## Background work -/

/-- Convert an amount that stands on a side into the other side. -/
def conversionOf (settings : PipelineSettings) (entry : AmountEntry) (amount : Decimal) :
    Dialogue ConversionResult :=
  match entry.selected with
  | .fiat => Converter.fiatToToken entry.currency.code amount.toText settings.conversionScale
  | .token => settings.converter.tokenToLocal amount.toText settings.conversionScale

/-- The bonus for spending an amount of fiat, `none` if it cannot be learned. -/
def bonusOf (settings : PipelineSettings) (currency : String) (fiat : Decimal) :
    Dialogue (Option BonusForecast) :=
  (Converter.fiatToToken currency fiat.toText settings.bonusScale).bind fun
    | .error _ => .done none
    | .ok tokens => .call (.forecast settings.package tokens.amount) fun
      | .error _ => .done none
      | .ok bonus => .done (some bonus)

/-- The limits of a currency, `none` if they cannot be learned. -/
def limitsOf (currency : String) : Dialogue (Option TopUpLimits) :=
  .call (.limits currency) fun
    | .error _ => .done none
    | .ok limits => .done (some limits)

/-- Put the conversion of an amount in flight. -/
def startConversion (settings : PipelineSettings) (pipeline : Pipeline) (amount : Decimal) :
    Pipeline :=
  let (latest, ticket) := pipeline.conversions.begin
  let exchange := Exchange.ready (conversionOf settings pipeline.state.entry amount)
  { pipeline with conversions := latest.attach ⟨ticket, exchange⟩ }

/-- Put the forecast for an amount in flight. -/
def startForecast (settings : PipelineSettings) (pipeline : Pipeline) (fiat : Decimal) :
    Pipeline :=
  let (latest, ticket) := pipeline.bonuses.begin
  let exchange := Exchange.ready (bonusOf settings pipeline.state.entry.currency.code fiat)
  { pipeline with bonuses := latest.attach ⟨ticket, exchange⟩ }

/-- Put loading the limits in flight, unless they are known or on their way. -/
def startLimits (pipeline : Pipeline) : Pipeline :=
  match pipeline.state.limits, pipeline.limits with
  | none, .idle =>
    { pipeline with
      limits := .loading (Exchange.ready (limitsOf pipeline.state.entry.currency.code)) }
  | _, _ => pipeline

/-! ## Duties -/

/-- What an input asks for.  A text that is no amount asks for nothing. -/
def inputDuties : AmountInput → List Duty
  | .setup methods currency => [.publish (.setupLoaded methods currency), .loadLimits]
  | .edit text =>
    match AmountValue.ofText? text with
    | none => []
    | some _ => [.cancelConversion, .cancelBonus, .publish (.amountEdited text),
        .emit (.setSubmitEnabled false), .arm]
  | .switchCurrency => [.publish .currencySwitched, .announceSide, .rearm]
  | .selectMethod method => [.publish (.methodSelected method), .revalidate]

/-- How the presentation layer hears of a bonus. -/
def bonusEffect : Option BonusForecast → Effect
  | none => .hideBonus
  | some bonus => if bonus.isVisible then .showBonus bonus.amount bonus.currency else .hideBonus

/-- What the end of a background task asks for.  A result whose ticket is stale asks for nothing. -/
def completionDuties (pipeline : Pipeline) : Completion → List Duty
  | .converted ticket derived =>
    if pipeline.conversions.isCurrent ticket then [.settle derived] else []
  | .limitsLoaded none => []
  | .limitsLoaded (some limits) => [.publish (.limitsLoaded limits), .validateWaiting]
  | .bonusLoaded ticket bonus =>
    if pipeline.bonuses.isCurrent ticket then
      [.emit (bonusEffect bonus), .publish (.bonusUpdated bonus), .announceSubmit]
    else []

/-- How the presentation layer hears of the check against the limits. -/
def boundsEffect (bounds : Bounds) (limits : EffectiveLimits) : Effect :=
  match limits.warning bounds with
  | none => .hideValueWarning
  | some bound => if bounds = .tooHigh then .showMaxValueWarning bound
    else .showMinValueWarning bound

/-- What checking the fiat amount asks for.  Without limits it asks for them; an amount outside the
limits has no bonus and is not submitted. -/
def validationDuties (state : ScreenState) : List Duty :=
  match state.limits, Gate.check state with
  | none, _ => [.loadLimits]
  | some _, none => []
  | some _, some (bounds, limits) =>
    .publish (.boundsValidated bounds) :: .emit (boundsEffect bounds limits) ::
      if bounds = .within then [.emit (.mainValueValid true), .forecast]
      else [.cancelBonus, .publish (.bonusUpdated none), .emit .hideBonus,
        .emit (.mainValueValid false), .emit (.setSubmitEnabled false)]

/-- The pipeline with duties that go before the ones it has. -/
def first (pipeline : Pipeline) (duties : List Duty) : Pipeline :=
  { pipeline with duties := duties ++ pipeline.duties }

/-- Do a duty that does not have to wait.  The duty itself is already taken off the list. -/
def perform (settings : PipelineSettings) (now : Instant) (pipeline : Pipeline) : Duty → Pipeline
  | .publish action => { pipeline with state := pipeline.state.next action }
  | .emit effect => pipeline.first [.emit effect]
  | .announceSide => pipeline.first [.emit (.currencySwitched pipeline.state.entry.selected)]
  | .announceAmounts => pipeline.first [.emit (.conversionValue pipeline.state.entry)]
  | .announceSubmit => pipeline.first [.emit (.setSubmitEnabled (Gate.canSubmit pipeline.state))]
  | .cancelConversion => { pipeline with conversions := pipeline.conversions.cancel }
  | .cancelBonus => { pipeline with bonuses := pipeline.bonuses.cancel }
  | .arm => { pipeline with debouncer := pipeline.debouncer.arm now }
  | .rearm =>
    if pipeline.state.settled then pipeline else pipeline.first [.cancelConversion, .arm]
  | .convert =>
    match pipeline.state.entry.source with
    | .unknown => pipeline.first [.settle .unknown]
    | .zero => pipeline.first [.settle .zero]
    | .value amount =>
      if amount.isPositive then pipeline.startConversion settings amount
      else pipeline.first [.settle .unknown]
  | .settle derived =>
    pipeline.first [.publish (.conversionSettled derived), .announceAmounts, .validate]
  | .validate => pipeline.first (validationDuties pipeline.state)
  | .revalidate =>
    if pipeline.state.settled then pipeline.first [.cancelBonus, .validate] else pipeline
  | .validateWaiting =>
    if pipeline.state.settled && pipeline.state.bounds.isNone then pipeline.first [.validate]
    else pipeline
  | .forecast =>
    match pipeline.state.entry.fiat.positive? with
    | none => pipeline
    | some fiat => pipeline.startForecast settings fiat
  | .loadLimits => pipeline.startLimits

/-! ## The end -/

/-- The pipeline after its shutdown: every background task is dropped. -/
def stop (pipeline : Pipeline) : Pipeline :=
  { pipeline with
    conversions := pipeline.conversions.cancel
    bonuses := pipeline.bonuses.cancel
    limits := .idle
    running := false }

end Pipeline

end WalletTopUp
