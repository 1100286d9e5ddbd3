import WalletTopUp.Payment.Submission
import WalletTopUp.Payment.Watch
import WalletTopUp.Pipeline.Step

/-!
# The session

One top-up screen from its creation to its teardown.  The session loads what the screen is set up
with, hands everything about amounts to the pipeline, and makes one payment at a time, which it
follows until it settles.
-/

namespace WalletTopUp

/-- What the presentation layer reports. -/
inductive SessionEvent where
  /-- The text of the amount field changed. -/
  | amountChanged (text : String)
  /-- The user wants to type on the other side. -/
  | changeCurrencyClicked
  | paymentMethodSelected (id : String)
  | nextClicked (submission : Submission)
  /-- The user came back from a redirect. -/
  | redirectReturned (uid : String) (details : Json.Value) (paymentData : Option String)
deriving Inhabited, BEq

/-- Why a screen could not be set up. -/
inductive SetupError where
  | methods (error : ServiceError)
  | currency (error : ConversionError)
deriving DecidableEq, Inhabited

/-- What a screen is set up with. -/
abbrev SetupResult : Type := Except SetupError (List PaymentMethod × Money)

/-- A payment that the session makes. -/
inductive PaymentJob where
  | topUp (order : PaymentOrder)
  | redirect (uid : String) (details : Json.Value) (paymentData : Option String)
deriving Inhabited

/-- How a payment is made. -/
def PaymentJob.dialogue : PaymentJob → Dialogue PaymentResult
  | topUp order => Payment.submitTopUp order
  | redirect uid details paymentData => Payment.submitRedirect uid details paymentData

/-- How far loading the setup has got. -/
inductive SetupLoad where
  /-- Payment methods and local currency are asked for at once. -/
  | loading (methods : Exchange (Except ServiceError (List PaymentMethod)))
      (currency : Exchange ConversionResult)
  /-- The task has ended and its result has not been taken yet. -/
  | loaded (result : SetupResult)
  /-- The result has been taken, or the task has been dropped. -/
  | over

/-- How far a payment has got. -/
inductive PaymentTask where
  | submitting (exchange : Exchange PaymentResult)
  /-- The transaction is followed until it is final. -/
  | following (uid : String) (watch : Watch)
  /-- The presentation layer is told how the payment ended. -/
  | reporting (effect : Effect)
  | ended

/-- A step of handling the setup or an event. -/
inductive SessionDuty where
  /-- Hand an input to the pipeline. -/
  | forward (input : AmountInput)
  /-- Tell the presentation layer. -/
  | emit (effect : Effect)
  /-- Begin a payment. -/
  | pay (job : PaymentJob)
deriving Inhabited

/-- How far a session has got. -/
inductive SessionPhase where
  | running
  /-- The session waits for the pipeline to end. -/
  | closing
  | ended
deriving DecidableEq, Inhabited

/-- How a session works. -/
structure SessionSettings where
  pipeline : PipelineSettings := {}
  gate : Gate := {}
  /-- Milliseconds between two looks at a transaction. -/
  pollPeriod : Nat := Watch.defaultPeriod
deriving DecidableEq, Inhabited

/-- A session. -/
structure Session where
  /-- The payment methods that may be selected. -/
  methods : List PaymentMethod := []
  setup : SetupLoad
  /-- The payment begun last. -/
  payment : Option PaymentTask := none
  /-- Events that have not been taken yet. -/
  events : List SessionEvent := []
  /-- What is left to do of the setup or event taken last. -/
  duties : List SessionDuty := []
  phase : SessionPhase := .running

namespace Session

/-- A new session. -/
def start (settings : SessionSettings) : Session :=
  { setup := .loading (.ready (Dialogue.call .methods .done))
      (.ready settings.pipeline.converter.localCurrency) }

/-- The outcome of the setup: the payment methods are looked at first. -/
def setupResult (methods : Except ServiceError (List PaymentMethod)) (currency : ConversionResult) :
    SetupResult :=
  match methods, currency with
  | .error error, _ => .error (.methods error)
  | .ok _, .error error => .error (.currency error)
  | .ok methods, .ok money => .ok (methods, money)

/-- Whether a payment is under way. -/
def isPaying (session : Session) : Bool :=
  match session.payment with
  | none => false
  | some .ended => false
  | some _ => true

/-- What a finished setup asks for.  A failed one asks for nothing. -/
def setupDuties (methods : List PaymentMethod) (money : Money) : List SessionDuty :=
  let currency : LocalCurrency := ⟨money.currency, money.symbol⟩
  [.forward (.setup methods currency), .emit (.setupUi methods currency)]

/-- What a click on the submit control asks for, given the published state.  While a payment is
under way, or as long as the state may not be submitted, it asks for nothing. -/
def nextDuties (settings : SessionSettings) (session : Session) (state : ScreenState)
    (submission : Submission) : List SessionDuty :=
  if session.isPaying || !Gate.canSubmit state then []
  else match state.selectedMethod with
    | none => []
    | some method =>
      match PaymentOrder.topUp method state.entry submission settings.pipeline.package with
      | none => []
      | some order => [.emit .showLoading, .pay (.topUp order)]

/-- What an event asks for, given the published state. -/
def eventDuties (settings : SessionSettings) (session : Session) (state : ScreenState) :
    SessionEvent → List SessionDuty
  | .amountChanged text => [.forward (.edit text)]
  | .changeCurrencyClicked => [.forward .switchCurrency]
  | .paymentMethodSelected id =>
    match session.methods.find? fun method => method.id == id with
    | none => []
    | some method => [.forward (.selectMethod method)]
  | .nextClicked submission => session.nextDuties settings state submission
  | .redirectReturned uid details paymentData =>
    if session.isPaying then [] else [.pay (.redirect uid details paymentData)]

/-- How the presentation layer hears of a payment, `none` while its transaction is under way. -/
def outcomeEffect : PaymentResult → Option Effect
  | .error error => some (.paymentFailed error.message)
  | .ok (.redirect uid action) => some (.redirect uid action)
  | .ok (.finished uid status) => some (.paymentFinished uid status)
  | .ok (.pending _) => none

/-- How a payment's transaction is followed. -/
def watchSettings (settings : SessionSettings) (uid : String) : Watch.Settings where
  filter := .provider
  period := settings.pollPeriod
  fetch := Payment.fetchTransaction uid

/-- The payment task after its payment has come to a result. -/
def afterSubmission : PaymentResult → PaymentTask
  | .ok (.pending uid) => .following uid {}
  | result =>
    match outcomeEffect result with
    | some effect => .reporting effect
    | none => .ended

end Session

end WalletTopUp
