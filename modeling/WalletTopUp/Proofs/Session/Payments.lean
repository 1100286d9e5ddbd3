import WalletTopUp.Proofs.Pipeline.Requests
import WalletTopUp.Proofs.Session.Learning

/-!
# Where payments come from

A session asks for a payment only because a click on the submit control was accepted
(`SessionRun.PlacesOrder`), and only from the wallet that the payment itself has looked up.  The
invariant follows an order from the click through its dialogue to the call
(`SessionRun.PaysOrders`); everything else that a screen asks for charges nobody.
-/

namespace WalletTopUp

/-! ## Dialogues -/

namespace Payment

variable {learned : (request : Request) → request.Answer → Prop} {order : PaymentOrder}

/-- Everything that topping up can go on with. -/
theorem leads_submitTopUp {later : Dialogue PaymentResult}
    (leads : (submitTopUp order).Leads learned later) :
    later = submitTopUp order
      ∨ (∃ wallet, learned .wallet (.ok wallet) ∧ later = send order wallet none)
      ∨ ∃ result, later = .done result := by
  cases leads with
  | here => exact .inl rfl
  | call heard rest =>
      rename_i answer
      cases answer with
      | error error =>
          cases rest with
          | here => exact .inr (.inr ⟨_, rfl⟩)
      | ok wallet =>
          cases rest with
          | here => exact .inr (.inl ⟨wallet, heard, rfl⟩)
          | call answered rest =>
              rename_i reply
              cases reply with
              | error error =>
                  cases rest with
                  | here => exact .inr (.inr ⟨_, rfl⟩)
              | ok reply =>
                  cases rest with
                  | here => exact .inr (.inr ⟨_, rfl⟩)

/-- A payment that topping up asks for is that of the order, from the wallet that was looked up. -/
theorem pays_of_follows {asked : CallId → Request → Prop} {exchange : Exchange PaymentResult}
    {payment : PaymentRequest} {resume : CallId → Exchange PaymentResult}
    (follows : exchange.Follows asked learned (submitTopUp order))
    (asks : exchange.ask? = some (.pay payment, resume)) :
    ∃ wallet, learned .wallet (.ok wallet) ∧ payment = order.request wallet none := by
  match exchange with
  | .ready (.call request _) =>
      obtain ⟨rfl, _⟩ := Prod.mk.inj (Option.some.inj asks)
      rcases leads_submitTopUp follows with same | ⟨wallet, heard, same⟩ | ⟨_, same⟩
      · cases same
      · cases same
        exact ⟨wallet, heard, rfl⟩
      · cases same
  | .ready (.both _ _ _ _ _) =>
      rcases leads_submitTopUp follows with same | ⟨_, _, same⟩ | ⟨_, same⟩ <;> cases same
  | .pair _ _ _ _ _ _ _ =>
      rcases leads_submitTopUp follows.1 with same | ⟨_, _, same⟩ | ⟨_, same⟩ <;> cases same
  | .ready (.done _) => cases asks
  | .waiting _ _ _ => cases asks

/-- Completing a payment after a redirect asks for no payment of its own. -/
theorem isFree_submitRedirect (uid : String) (details : Json.Value) (data : Option String) :
    (submitRedirect uid details data).AllRequests Request.IsFree := by
  refine ⟨fun _ same => (by cases same), fun answer => ?_⟩
  cases answer with
  | error _ => trivial
  | ok wallet =>
      refine ⟨fun _ same => (by cases same), fun answer => ?_⟩
      cases answer <;> trivial

/-- Asking how far a transaction has got asks for no payment. -/
theorem isFree_fetchTransaction (uid : String) :
    (fetchTransaction uid).AllRequests Request.IsFree := by
  refine ⟨fun _ same => (by cases same), fun answer => ?_⟩
  cases answer with
  | error _ => trivial
  | ok wallet => exact ⟨fun _ same => (by cases same), fun _ => trivial⟩

end Payment

namespace Watch

/-- The fetch in flight will never ask for a payment. -/
def AsksFree (watch : Watch) : Prop :=
  ∀ exchange, watch.inFlight = some exchange → exchange.AllRequests Request.IsFree

variable {settings : Settings} {watch later : Watch} {now : Instant}

/-- A watch that will never ask for a payment is still one after it has been read. -/
theorem AsksFree.next (free : watch.AsksFree)
    (fetch : settings.fetch.AllRequests Request.IsFree)
    (read : watch.next settings now = .moved later
      ∨ ∃ update, watch.next settings now = .delivered update later) : later.AsksFree := by
  have refetched : ∀ ticker, (watch.refetch settings ticker now).AsksFree := by
    intro ticker exchange same
    obtain rfl := Option.some.inj same
    exact fetch
  have received : ∀ result, watch.receive settings result = .moved later
      ∨ (∃ update, watch.receive settings result = .delivered update later) →
        later.AsksFree := by
    intro result read exchange same
    cases result with
    | error _ =>
        rcases read with read | ⟨_, read⟩ <;> cases read
        cases same
    | ok update =>
        simp only [receive] at read
        split at read <;> rcases read with read | ⟨_, read⟩ <;> cases read <;> cases same
  simp only [Watch.next] at read
  split at read
  · rcases read with read | ⟨_, read⟩ <;> cases read
  · split at read
    · rcases read with read | ⟨_, read⟩ <;> cases read
      exact free
    · split at read
      · split at read
        · rcases read with read | ⟨_, read⟩ <;> cases read
          exact refetched _
        · rcases read with read | ⟨_, read⟩ <;> cases read
      · split at read
        · exact received _ read
        · split at read
          · rcases read with read | ⟨_, read⟩ <;> cases read
            exact refetched _
          · rcases read with read | ⟨_, read⟩ <;> cases read

/-- A watch that will never ask for a payment does not ask for one next. -/
theorem AsksFree.ask {request : Request} {resume : CallId → Watch}
    (free : watch.AsksFree)
    (asks : watch.ask? = some (request, resume)) :
    request.IsFree ∧ ∀ call, (resume call).AsksFree := by
  simp only [ask?] at asks
  split at asks
  · cases asks
  · next exchange flying =>
      obtain ⟨pair, puts, same⟩ := Option.map_eq_some_iff.mp asks
      cases same
      obtain ⟨charges, rest⟩ := (free exchange flying).ask puts
      refine ⟨charges, fun call exchangeNext same => ?_⟩
      obtain rfl := Option.some.inj same
      exact rest call

/-- No answer makes a watch ask for a payment. -/
theorem AsksFree.hear (free : watch.AsksFree) (call : CallId) (server : Server) :
    (watch.hear call server).AsksFree := by
  intro exchangeNext same
  obtain ⟨exchange, flying, rfl⟩ := Option.map_eq_some_iff.mp same
  exact (free exchange flying).hear call server

end Watch

/-! ## Orders -/

namespace SessionRun

variable {settings : SessionSettings} {run next : SessionRun} {event : Move} {past : History}
  {moment : Moment SessionRun Move}

/-- A click on the submit control is accepted, and the order is made from the published state. -/
structure PlacesOrder (settings : SessionSettings) (order : PaymentOrder)
    (moment : Moment SessionRun Move) : Prop where
  own : moment.event = .step .session
  isOpen : moment.before.IsOpen
  canSubmit : Gate.canSubmit moment.before.pipeline.state = true
  made : ∃ method submission, moment.before.pipeline.state.selectedMethod = some method
    ∧ PaymentOrder.topUp method moment.before.pipeline.state.entry submission
        settings.pipeline.package = some order

/-- An order has been placed. -/
def Placed (settings : SessionSettings) (past : History) (order : PaymentOrder) : Prop :=
  ∃ moment ∈ past, PlacesOrder settings order moment

/-- An order that has been placed stays placed. -/
theorem Placed.later {order : PaymentOrder} (placed : Placed settings past order) :
    Placed settings (moment :: past) order := by
  obtain ⟨earlier, member, places⟩ := placed
  exact ⟨earlier, List.mem_cons_of_mem _ member, places⟩

/-- A payment that rests on an order and on the wallet that was looked up for it. -/
def Ordered (settings : SessionSettings) (past : History) (payment : PaymentRequest) : Prop :=
  ∃ order wallet, Placed settings past order ∧ Learned .payment past .wallet (.ok wallet)
    ∧ payment = order.request wallet none

/-- A payment that has been ordered stays ordered. -/
theorem Ordered.later {payment : PaymentRequest} (ordered : Ordered settings past payment) :
    Ordered settings (moment :: past) payment := by
  obtain ⟨order, wallet, placed, learned, same⟩ := ordered
  exact ⟨order, wallet, placed.later, .later trivial learned, same⟩

/-- What a payment under way may ask for: either it makes a top-up that has been ordered, or it
charges nobody. -/
def Submits (settings : SessionSettings) (past : History) (exchange : Exchange PaymentResult) :
    Prop :=
  (∃ order, Placed settings past order
    ∧ exchange.Follows (Asked .payment past) (Learned .payment past) (Payment.submitTopUp order))
    ∨ exchange.AllRequests Request.IsFree

/-- What is submitted for an order stays so. -/
theorem Submits.later {exchange : Exchange PaymentResult}
    (submits : Submits settings past exchange) : Submits settings (moment :: past) exchange := by
  rcases submits with ⟨order, placed, follows⟩ | free
  · exact .inl ⟨order, placed.later, follows_later follows⟩
  · exact .inr free

/-- An answer leads the submission of an order on. -/
theorem Submits.hear {exchange : Exchange PaymentResult} {call : CallId} {server : Server}
    (submits : Submits settings past exchange) :
    Submits settings (⟨run, .answer call server⟩ :: past) (exchange.hear call server) := by
  rcases submits with ⟨order, placed, follows⟩ | free
  · exact .inl ⟨order, placed.later, follows_hear follows⟩
  · exact .inr (free.hear call server)

/-- What follows a payment under way: a request that may be made, and a payment as before. -/
theorem Submits.ask {exchange : Exchange PaymentResult} {request : Request}
    {resume : CallId → Exchange PaymentResult}
    (submits : Submits settings past exchange)
    (asks : exchange.ask? = some (request, resume))
    (same : (run.ask? .payment).map Prod.fst = some request) :
    Submits settings (⟨run, .step .payment⟩ :: past) (resume run.calls.length)
      ∧ ∀ payment, request = .pay payment → Ordered settings past payment := by
  rcases submits with ⟨order, placed, follows⟩ | free
  · refine ⟨.inl ⟨order, placed.later, follows_ask follows asks same⟩, ?_⟩
    rintro payment rfl
    obtain ⟨wallet, learned, same⟩ := Payment.pays_of_follows follows asks
    exact ⟨order, wallet, placed, learned, same⟩
  · obtain ⟨charges, rest⟩ := free.ask asks
    exact ⟨.inr (rest _), fun payment same => (charges payment same).elim⟩

/-! ## The invariant -/

/-- Every payment that has been asked for, or may still be, rests on an order. -/
structure PaysOrders (settings : SessionSettings) (past : History) (run : SessionRun) : Prop where
  waiting : ∀ order, .pay (.topUp order) ∈ run.session.duties → Placed settings past order
  submitting : ∀ exchange, run.session.payment = some (.submitting exchange) →
    Submits settings past exchange
  following : ∀ uid watch, run.session.payment = some (.following uid watch) → watch.AsksFree
  paid : ∀ call ∈ run.calls, ∀ payment, call.request = .pay payment →
    Ordered settings past payment

/-- At the start nothing has been paid and nothing is planned. -/
theorem paysOrders_start : PaysOrders settings [] (start settings) where
  waiting _ member := by cases member
  submitting _ same := by cases same
  following _ _ same := by cases same
  paid _ member := by cases member

/-- What keeps to the orders does so whatever happens next. -/
theorem PaysOrders.later (pays : PaysOrders settings past run) :
    PaysOrders settings (moment :: past) run where
  waiting order member := (pays.waiting order member).later
  submitting exchange same := (pays.submitting exchange same).later
  following := pays.following
  paid call member payment same := (pays.paid call member payment same).later

/-- Only an accepted click asks for a top-up. -/
theorem placesOrder_of_mem_eventDuties {event : SessionEvent} {order : PaymentOrder}
    (isOpen : run.IsOpen)
    (member : .pay (.topUp order)
      ∈ run.session.eventDuties settings run.pipeline.state event) :
    PlacesOrder settings order ⟨run, .step .session⟩ := by
  cases event with
  | amountChanged _ | changeCurrencyClicked => cases List.mem_singleton.mp member
  | paymentMethodSelected id =>
      simp only [Session.eventDuties] at member
      split at member
      · cases member
      · cases List.mem_singleton.mp member
  | nextClicked submission =>
      simp only [Session.eventDuties, Session.nextDuties] at member
      split at member
      · cases member
      · next allowed =>
          simp only [Bool.or_eq_true, Bool.not_eq_true', not_or, Bool.not_eq_true,
            Bool.not_eq_false] at allowed
          split at member
          · cases member
          · next method selected =>
              split at member
              · cases member
              · next made topUp =>
                  simp only [List.mem_cons, reduceCtorEq, SessionDuty.pay.injEq,
                    PaymentJob.topUp.injEq, List.not_mem_nil, or_false, false_or] at member
                  subst member
                  exact ⟨rfl, isOpen, allowed.2, method, submission, selected, topUp⟩
  | redirectReturned uid details data =>
      simp only [Session.eventDuties] at member
      split at member
      · cases member
      · cases List.mem_singleton.mp member

/-- Every step of the session pays orders only that have been placed. -/
theorem PaysOrders.ownStep
    (pays : PaysOrders settings past run)
    (step : OwnStep settings run next) :
    PaysOrders settings (⟨run, .step .session⟩ :: past) next := by
  have later : PaysOrders settings (⟨run, .step .session⟩ :: past) run := pays.later
  obtain ⟨waiting, submitting, following, paid⟩ := later
  cases step with
  | closes _ _ _ =>
      exact ⟨waiting, fun _ same => (by cases same), fun _ _ same => (by cases same), paid⟩
  | setsUp _ _ _ =>
      refine ⟨fun order member => ?_, submitting, following, paid⟩
      simp only [Session.setupDuties, List.mem_cons, reduceCtorEq, List.not_mem_nil,
        or_self] at member
  | event isOpen _ _ _ =>
      refine ⟨fun order member => ?_, submitting, following, paid⟩
      exact ⟨_, List.mem_cons_self, placesOrder_of_mem_eventDuties isOpen member⟩
  | drops _ head _ | forwards _ head _ | tells _ head =>
      exact ⟨fun order member => waiting order (head ▸ List.mem_cons_of_mem _ member), submitting,
        following, paid⟩
  | @pays job rest _ head =>
      refine ⟨fun order member => waiting order (head ▸ List.mem_cons_of_mem _ member),
        fun exchange same => ?_, fun _ _ same => (by cases same), paid⟩
      obtain rfl := PaymentTask.submitting.inj (Option.some.inj same)
      cases job with
      | topUp order => exact .inl ⟨order, waiting order (head ▸ List.mem_cons_self), .ready _⟩
      | redirect uid details data => exact .inr (Payment.isFree_submitRedirect uid details data)
  | rejects _ _ _ | waits _ _ | ends _ _ => exact ⟨waiting, submitting, following, paid⟩

/-- One more call. -/
theorem paid_concat {request : Request}
    (paid : ∀ call ∈ run.calls, ∀ payment, call.request = .pay payment →
      Ordered settings past payment)
    (new : ∀ payment, request = .pay payment → Ordered settings past payment) :
    ∀ call ∈ run.calls ++ [⟨run.now, request⟩], ∀ payment, call.request = .pay payment →
      Ordered settings past payment := by
  intro call member payment same
  rcases List.mem_append.mp member with earlier | last
  · exact paid call earlier payment same
  · rw [List.mem_singleton.mp last] at same
    exact new payment same

/-- Nothing that the setup asks for charges anybody. -/
theorem isFree_of_setup {methods : Exchange (Except ServiceError (List PaymentMethod))}
    {currency : Exchange ConversionResult}
    (reached : Reaches (SessionRun.move settings) (start settings) past run)
    (loading : run.session.setup = .loading methods currency) :
    methods.AllRequests Request.IsFree ∧ currency.AllRequests Request.IsFree := by
  obtain ⟨left, right⟩ := (setupFollows_of_reaches reached).loading _ _ loading
  refine ⟨left.allRequests ⟨fun _ same => (by cases same), fun _ => trivial⟩, ?_⟩
  exact right.allRequests (Converter.isFree_localCurrency _)

/-- A payment that has come to a result has nothing in flight. -/
theorem afterSubmission_cases (result : PaymentResult) :
    (∃ uid, Session.afterSubmission result = .following uid {})
      ∨ (∃ effect, Session.afterSubmission result = .reporting effect)
      ∨ Session.afterSubmission result = .ended := by
  unfold Session.afterSubmission
  split
  · exact .inl ⟨_, rfl⟩
  · split
    · exact .inr (.inl ⟨_, rfl⟩)
    · exact .inr (.inr rfl)

/-- Every move pays orders only that have been placed. -/
theorem PaysOrders.move
    (pays : PaysOrders settings past run)
    (reached : Reaches (SessionRun.move settings) (start settings) past run)
    (moved : run.move settings event = some next) :
    PaysOrders settings (⟨run, event⟩ :: past) next := by
  have later : PaysOrders settings (⟨run, event⟩ :: past) run := pays.later
  obtain ⟨waiting, submitting, following, paid⟩ := later
  cases moveStep_of_move moved with
  | own step => exact pays.ownStep step
  -- Of all that is asked only the requests of a submission can be payments.
  | askPipeline asks =>
      have charges := (Pipeline.asksFree_of_reaches (reaches_turns reached)).ask asks
      exact ⟨waiting, submitting, following,
        paid_concat paid fun payment same => (charges payment same).elim⟩
  | askMethods loading asks =>
      obtain ⟨charges, _⟩ := (isFree_of_setup reached loading).1.ask asks
      exact ⟨waiting, submitting, following,
        paid_concat paid fun payment same => (charges payment same).elim⟩
  | askCurrency loading _ asks =>
      obtain ⟨charges, _⟩ := (isFree_of_setup reached loading).2.ask asks
      exact ⟨waiting, submitting, following,
        paid_concat paid fun payment same => (charges payment same).elim⟩
  | @askPayment exchange request resume current asks =>
      have same : (run.ask? .payment).map Prod.fst = some request := by
        simp only [ask?, current, asks, Option.map_some]
      obtain ⟨submits, ordered⟩ := (pays.submitting _ current).ask asks same
      refine ⟨waiting, fun exchangeNext same => ?_, fun _ _ same => (by cases same),
        paid_concat paid fun payment same => (ordered payment same).later⟩
      obtain rfl := PaymentTask.submitting.inj (Option.some.inj same)
      exact submits
  | @askWatch uid watch request resume current asks =>
      obtain ⟨charges, rest⟩ := (pays.following uid watch current).ask asks
      refine ⟨waiting, fun _ same => (by cases same), fun _ watchNext same => ?_,
        paid_concat paid fun payment same => (charges payment same).elim⟩
      cases same
      exact rest _
  | @submits _ result _ _ =>
      have goesOn : ∀ task, (run.withPayment (Session.afterSubmission result)).session.payment
          = some task → task = Session.afterSubmission result := fun task same =>
        (Option.some.inj same).symm
      refine ⟨waiting, fun _ same => ?_, fun uid watch same => ?_, paid⟩
      · rcases afterSubmission_cases result with ⟨_, after⟩ | ⟨_, after⟩ | after <;>
          cases (goesOn _ same).trans after
      · rcases afterSubmission_cases result with ⟨_, after⟩ | ⟨_, after⟩ | after <;>
          cases (goesOn _ same).trans after
        intro exchange flying
        cases flying
  | watches current read =>
      refine ⟨waiting, fun _ same => (by cases same), fun _ _ same => ?_, paid⟩
      cases same
      exact (pays.following _ _ current).next (Payment.isFree_fetchTransaction _) read
  | settles current final =>
      refine ⟨waiting, fun _ same => ?_, fun _ _ same => ?_, paid⟩ <;>
        rcases final with rfl | ⟨_, rfl⟩ <;> cases same
  | reports _ =>
      exact ⟨waiting, fun _ same => (by cases same), fun _ _ same => (by cases same), paid⟩
  | @answer call server =>
      refine ⟨waiting, fun exchangeNext same => ?_, fun uid watchNext same => ?_, paid⟩
      · simp only [hear] at same
        split at same
        · next exchange current =>
            obtain rfl := PaymentTask.submitting.inj (Option.some.inj same)
            exact (pays.submitting _ current).hear
        · cases same
        · next unlike _ => exact (unlike _ same).elim
      · simp only [hear] at same
        split at same
        · cases same
        · next watch current =>
            cases same
            exact (pays.following _ _ current).hear call server
        · next unlike => exact (unlike _ _ same).elim
  | _ => exact ⟨waiting, submitting, following, paid⟩

/-- **Every payment that is asked for rests on an order.** -/
theorem paysOrders_of_reaches
    (reached : Reaches (SessionRun.move settings) (start settings) past run) :
    PaysOrders settings past run := by
  induction reached with
  | start => exact paysOrders_start
  | step earlier moved ih => exact ih.move earlier moved

end SessionRun

end WalletTopUp
