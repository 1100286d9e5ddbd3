import WalletTopUp.Proofs.Rates.Answers
import WalletTopUp.Proofs.Session.Turns

/-!
# What a screen has learned

The answers that a task of a screen has heard to its own requests (`SessionRun.Learned`), and what
the setup of a session rests on: the payment methods are the provider's answer, and the local
currency is the one in which the broker values a token (`SessionRun.SetupFollows`).
-/

namespace WalletTopUp

namespace SessionRun

variable {settings : SessionSettings} {run next : SessionRun} {event : Move} {past : History}
  {moment : Moment SessionRun Move} {task : TaskName}

/-! ## Answers -/

/-- A task puts out a request as the call of this number. -/
def Asks (task : TaskName) (call : CallId) (request : Request)
    (moment : Moment SessionRun Move) : Prop :=
  moment.event = .step task ∧ moment.before.calls.length = call
    ∧ (moment.before.ask? task).map Prod.fst = some request

/-- The call of this number is answered. -/
def Hears (call : CallId) (request : Request) (answer : request.Answer)
    (moment : Moment SessionRun Move) : Prop :=
  ∃ server, moment.event = .answer call server ∧ server request = answer

/-- A task has put out a request as the call of this number. -/
def Asked (task : TaskName) (past : History) (call : CallId) (request : Request) : Prop :=
  Since (fun _ => True) (fun moment _ => Asks task call request moment) past

/-- A task has put out a request, and later it was answered. -/
def Learned (task : TaskName) (past : History) (request : Request) (answer : request.Answer) :
    Prop :=
  Since (fun _ => True)
    (fun moment before => ∃ call, Hears call request answer moment ∧ Asked task before call request)
    past

/-- What has been learned stays learned. -/
theorem Learned.mono {later : History} {request : Request} {answer : request.Answer}
    (learned : Learned task past request answer) (suffix : past <:+ later) :
    Learned task later request answer := learned.extend suffix

/-- What an exchange has asked and learned, it has at every later moment. -/
theorem follows_later {α : Type} {dialogue : Dialogue α} {exchange : Exchange α}
    (follows : exchange.Follows (Asked task past) (Learned task past) dialogue) :
    exchange.Follows (Asked task (moment :: past)) (Learned task (moment :: past)) dialogue :=
  follows.mono (fun _ _ asked => .later trivial asked) fun _ _ learned => .later trivial learned

/-- An exchange that puts its next request still follows its dialogue. -/
theorem follows_ask {α : Type} {dialogue : Dialogue α} {exchange : Exchange α} {request : Request}
    {resume : CallId → Exchange α}
    (follows : exchange.Follows (Asked task past) (Learned task past) dialogue)
    (asks : exchange.ask? = some (request, resume))
    (same : (run.ask? task).map Prod.fst = some request) :
    (resume run.calls.length).Follows (Asked task (⟨run, .step task⟩ :: past))
      (Learned task (⟨run, .step task⟩ :: past)) dialogue :=
  (follows_later follows).ask asks (.now ⟨rfl, rfl, same⟩)

/-- An exchange that hears an answer still follows its dialogue. -/
theorem follows_hear {α : Type} {dialogue : Dialogue α} {exchange : Exchange α} {call : CallId}
    {server : Server}
    (follows : exchange.Follows (Asked task past) (Learned task past) dialogue) :
    (exchange.hear call server).Follows (Asked task (⟨run, .answer call server⟩ :: past))
      (Learned task (⟨run, .answer call server⟩ :: past)) dialogue :=
  follows.hear (fun _ _ asked => .later trivial asked) (fun _ _ learned => .later trivial learned)
    fun _ asked => .now ⟨call, ⟨server, rfl, rfl⟩, asked⟩

/-! ## The setup -/

/-- The provider has answered that these methods exist. -/
def MethodsLearned (past : History) (methods : List PaymentMethod) : Prop :=
  Learned .setup past .methods (.ok methods)

/-- The broker has answered in which currency it values a token. -/
def CurrencyLearned (past : History) (currency symbol : String) : Prop :=
  ∃ value, Learned .setup past (.quote tokenCode "1.0" none) (.ok ⟨value, currency, symbol⟩)

/-- Loading the setup is where its answers have led it. -/
structure SetupFollows (settings : SessionSettings) (past : History) (run : SessionRun) : Prop where
  loading : ∀ methods currency, run.session.setup = .loading methods currency →
    methods.Follows (Asked .setup past) (Learned .setup past) (.call .methods .done)
      ∧ currency.Follows (Asked .setup past) (Learned .setup past)
        settings.pipeline.converter.localCurrency
  loaded : ∀ methods money, run.session.setup = .loaded (.ok (methods, money)) →
    MethodsLearned past methods ∧ CurrencyLearned past money.currency money.symbol

/-- Before the first move the set-up has asked nothing. -/
theorem setupFollows_start : SetupFollows settings [] (start settings) where
  loading methods currency same := by
    obtain ⟨rfl, rfl⟩ := SetupLoad.loading.inj same
    exact ⟨.ready _, .ready _⟩
  loaded _ _ same := by cases same

/-- A move that leaves the set-up as it is keeps it following. -/
theorem SetupFollows.keep
    (follows : SetupFollows settings past run)
    (same : next.session.setup = run.session.setup) :
    SetupFollows settings (⟨run, event⟩ :: past) next where
  loading methods currency loading := by
    obtain ⟨left, right⟩ := follows.loading methods currency (same ▸ loading)
    exact ⟨follows_later left, follows_later right⟩
  loaded methods money loaded := by
    obtain ⟨learned, value, valued⟩ := follows.loaded methods money (same ▸ loaded)
    exact ⟨.later trivial learned, value, .later trivial valued⟩

/-- Once the set-up is over nothing is left to follow. -/
theorem setupFollows_over (ended : next.session.setup = .over) :
    SetupFollows settings past next where
  loading _ _ same := by rw [ended] at same; cases same
  loaded _ _ same := by rw [ended] at same; cases same

/-- The end of loading the setup: both parts have been learned if both have succeeded. -/
theorem learned_of_setupResult
    {foundMethods : Except ServiceError (List PaymentMethod)} {foundCurrency : ConversionResult}
    {methods : List PaymentMethod} {money : Money}
    (ledMethods : (Dialogue.call .methods .done).Leads (Learned .setup past) (.done foundMethods))
    (ledCurrency : settings.pipeline.converter.localCurrency.Leads (Learned .setup past)
      (.done foundCurrency))
    (found : Session.setupResult foundMethods foundCurrency = .ok (methods, money)) :
    MethodsLearned past methods ∧ CurrencyLearned past money.currency money.symbol := by
  cases foundMethods with
  | error _ => cases found
  | ok knownMethods =>
      cases foundCurrency with
      | error _ => cases found
      | ok knownMoney =>
          cases found
          refine ⟨?_, ?_⟩
          · cases ledMethods with
            | call heard rest =>
                obtain rfl := rest.done_inj
                exact heard
          · obtain ⟨⟨value, currency, symbol⟩, heard, rfl⟩ :=
              Converter.leads_localCurrency ledCurrency
            exact ⟨value, heard⟩

/-- Every move keeps the set-up following what it asked and learned. -/
theorem SetupFollows.move
    (follows : SetupFollows settings past run)
    (moved : run.move settings event = some next) :
    SetupFollows settings (⟨run, event⟩ :: past) next := by
  cases moveStep_of_move moved with
  | own step =>
      cases step with
      | closes _ _ _ | rejects _ _ _ | setsUp _ _ _ => exact setupFollows_over rfl
      | _ => exact follows.keep rfl
  | @askMethods methods currency request resume loading asks =>
      have same : (run.ask? .setup).map Prod.fst = some request := by
        simp only [ask?, loading, asks, Option.map_some]
      refine ⟨fun methodsNext currencyNext loadingNext => ?_, fun _ _ same => (by cases same)⟩
      obtain ⟨rfl, rfl⟩ := SetupLoad.loading.inj loadingNext
      obtain ⟨left, right⟩ := follows.loading _ _ loading
      exact ⟨follows_ask left asks same, follows_later right⟩
  | @askCurrency methods currency request resume loading silent asks =>
      have same : (run.ask? .setup).map Prod.fst = some request := by
        simp only [ask?, loading, silent, asks, Option.map_some]
      refine ⟨fun methodsNext currencyNext loadingNext => ?_, fun _ _ same => (by cases same)⟩
      obtain ⟨rfl, rfl⟩ := SetupLoad.loading.inj loadingNext
      obtain ⟨left, right⟩ := follows.loading _ _ loading
      exact ⟨follows_later left, follows_ask right asks same⟩
  | endSetup loading overMethods overCurrency =>
      refine ⟨fun _ _ same => (by cases same), fun methods money loaded => ?_⟩
      obtain ⟨left, right⟩ := follows.loading _ _ loading
      obtain ⟨learned, value, valued⟩ := learned_of_setupResult (left.result overMethods)
        (right.result overCurrency) (SetupLoad.loaded.inj loaded)
      exact ⟨.later trivial learned, value, .later trivial valued⟩
  | @answer call server =>
      refine ⟨fun methodsNext currencyNext loadingNext => ?_, fun methods money loaded => ?_⟩
      · simp only [hear] at loadingNext
        split at loadingNext
        · next methods currency loading =>
            obtain ⟨rfl, rfl⟩ := SetupLoad.loading.inj loadingNext
            obtain ⟨left, right⟩ := follows.loading _ _ loading
            exact ⟨follows_hear left, follows_hear right⟩
        · next unlike => exact (unlike _ _ loadingNext).elim
      · simp only [hear] at loaded
        split at loaded
        · cases loaded
        · obtain ⟨learned, value, valued⟩ := follows.loaded methods money loaded
          exact ⟨.later trivial learned, value, .later trivial valued⟩
  | _ => exact follows.keep rfl

/-- **The setup rests on the answers to its own requests.** -/
theorem setupFollows_of_reaches
    (reached : Reaches (SessionRun.move settings) (start settings) past run) :
    SetupFollows settings past run := by
  induction reached with
  | start => exact setupFollows_start
  | step _ moved ih => exact ih.move moved

end SessionRun

end WalletTopUp
