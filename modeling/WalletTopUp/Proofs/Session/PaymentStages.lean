import WalletTopUp.Proofs.Session.Episodes
import WalletTopUp.Proofs.Session.PaymentSteps

/-!
# Stages of a payment

How far the last payment of a screen has got, what belongs to it so far, and what the screen looks
like then (`SessionRun.Stage`).  As long as the screen is up and the presentation layer listens,
every move takes a payment from one stage to the next, or to its outcome
(`SessionRun.continues_of_move`).
-/

namespace WalletTopUp

namespace SessionRun

variable {settings : SessionSettings} {run next : SessionRun} {event : Move} {past : History}
  {current : List PaymentEvent}

/-! ## Reading a move -/

/-- A duty has nothing to do with payments. -/
def IsPlain : SessionDuty → Prop
  | .forward _ => True
  | .emit effect => effect.isPayment = false
  | .pay _ => False

/-- A transaction that is followed has not come to a final status, and asking for it submits
nothing. -/
structure Unsettled (watch : Watch) : Prop where
  unfinished : watch.finished = false
  harmless : ∀ exchange, watch.inFlight = some exchange → exchange.AllRequests Request.IsHarmless

/-- How far the last payment has got, with what belongs to it so far. -/
inductive Stage (run : SessionRun) : List PaymentEvent → Prop where
  /-- There is none, or the last one has come to its outcome. -/
  | idle (plain : ∀ duty ∈ run.session.duties, IsPlain duty)
      (free : run.session.isPaying = false) : Stage run []
  /-- A click has been accepted. -/
  | announcing {order : PaymentOrder} (free : run.session.isPaying = false)
      (duties : run.session.duties = [.emit .showLoading, .pay (.topUp order)]) :
      Stage run [.accepted (.topUp order)]
  /-- The payment is about to begin. -/
  | starting {job : PaymentJob} (free : run.session.isPaying = false)
      (duties : run.session.duties = [.pay job]) : Stage run job.lead
  | submitting {job : PaymentJob} {exchange : Exchange PaymentResult} {requests : List Request}
      {heard : List Answered} (plain : ∀ duty ∈ run.session.duties, IsPlain duty)
      (payment : run.session.payment = some (.submitting exchange))
      (course : job.dialogue.Course requests heard exchange) :
      Stage run (job.lead ++ .begun job :: (requests.filter Request.submits).map .requested)
  | following {job : PaymentJob} {request : Option Request} {uid : String} {watch : Watch}
      (plain : ∀ duty ∈ run.session.duties, IsPlain duty)
      (payment : run.session.payment = some (.following uid watch))
      (own : ∀ asked ∈ request, ∃ wallet, asked = job.contact wallet)
      (unsettled : Unsettled watch) : Stage run (Episode.begun job request)
  | reporting {job : PaymentJob} {request : Option Request} {effect : Effect}
      (plain : ∀ duty ∈ run.session.duties, IsPlain duty)
      (payment : run.session.payment = some (.reporting effect))
      (own : ∀ asked ∈ request, ∃ wallet, asked = job.contact wallet)
      (outcome : effect.IsOutcome) : Stage run (Episode.begun job request)

/-- Whether a payment is under way depends on the payment only. -/
theorem isPaying_congr {first second : Session} (payment : first.payment = second.payment) :
    first.isPaying = second.isPaying := by
  rw [Session.isPaying, Session.isPaying, payment]

/-- A stage depends on nothing but the duties of the session and its payment. -/
theorem Stage.congr (stage : Stage run current)
    (duties : next.session.duties = run.session.duties)
    (payment : next.session.payment = run.session.payment) : Stage next current := by
  cases stage with
  | idle plain free => exact .idle (duties ▸ plain) ((isPaying_congr payment).trans free)
  | announcing free waiting =>
      exact .announcing ((isPaying_congr payment).trans free) (duties.trans waiting)
  | starting free waiting =>
      exact .starting ((isPaying_congr payment).trans free) (duties.trans waiting)
  | submitting plain paying course =>
      exact .submitting (duties ▸ plain) (payment.trans paying) course
  | following plain paying own unsettled =>
      exact .following (duties ▸ plain) (payment.trans paying) own unsettled
  | reporting plain paying own outcome =>
      exact .reporting (duties ▸ plain) (payment.trans paying) own outcome

/-- Asking how far a transaction has got submits nothing. -/
theorem isHarmless_fetchTransaction (uid : String) :
    (Payment.fetchTransaction uid).AllRequests Request.IsHarmless := by
  refine ⟨rfl, fun answer => ?_⟩
  cases answer with
  | error _ => trivial
  | ok _ => exact ⟨rfl, fun _ => trivial⟩

/-- A watch goes on being unsettled as long as what it delivers is not final. -/
theorem Unsettled.read {uid : String} {watch later : Watch} {now : Instant}
    (unsettled : Unsettled watch)
    (read : watch.next (Session.watchSettings settings uid) now = .moved later
      ∨ ∃ update : TransactionUpdate, update.status.isFinal = false
        ∧ watch.next (Session.watchSettings settings uid) now = .delivered update later) :
    Unsettled later := by
  rcases read with moved | ⟨update, pending, delivered⟩
  · obtain ⟨finished, flies⟩ := WatchRun.next_moved moved
    refine ⟨finished.trans unsettled.unfinished, fun exchange flying => ?_⟩
    rcases flies exchange flying with earlier | rfl
    · exact unsettled.harmless exchange earlier
    · exact isHarmless_fetchTransaction uid
  · obtain ⟨finished, grounded⟩ := WatchRun.next_delivered delivered
    refine ⟨finished.trans pending, fun exchange flying => ?_⟩
    cases grounded.symm.trans flying

/-- An unsettled watch asks harmless questions only. -/
theorem Unsettled.ask {watch : Watch} {request : Request} {resume : CallId → Watch}
    (unsettled : Unsettled watch) (asks : watch.ask? = some (request, resume)) :
    request.IsHarmless ∧ ∀ call, Unsettled (resume call) := by
  obtain ⟨exchange, later, flying, puts, rfl⟩ := WatchRun.ask?_eq_some asks
  obtain ⟨harmless, rest⟩ := (unsettled.harmless exchange flying).ask puts
  refine ⟨harmless, fun call => ⟨unsettled.unfinished, fun exchange flying => ?_⟩⟩
  exact Option.some.inj flying ▸ rest call

/-- An answer does not settle a watch before it is delivered. -/
theorem Unsettled.hear {watch : Watch} (unsettled : Unsettled watch) (call : CallId)
    (server : Server) : Unsettled (watch.hear call server) := by
  refine ⟨unsettled.unfinished, fun exchange flying => ?_⟩
  obtain ⟨earlier, flies, rfl⟩ := Option.map_eq_some_iff.mp flying
  exact (unsettled.harmless earlier flies).hear call server

/-- An answer neither begins nor ends a payment. -/
theorem isPaying_hear (run : SessionRun) (call : CallId) (server : Server) :
    (run.hear call server).session.isPaying = run.session.isPaying := by
  simp only [SessionRun.hear, Session.isPaying]
  cases run.session.payment with
  | none => rfl
  | some task => cases task <;> rfl

/-- An answer leaves a payment at its stage. -/
theorem Stage.hear (stage : Stage run current) (call : CallId) (server : Server) :
    Stage (run.hear call server) current := by
  cases stage with
  | idle plain free => exact .idle plain ((isPaying_hear run call server).trans free)
  | announcing free duties => exact .announcing ((isPaying_hear run call server).trans free) duties
  | starting free duties => exact .starting ((isPaying_hear run call server).trans free) duties
  | submitting plain payment course =>
      refine .submitting plain ?_ (course.hear call server)
      simp only [SessionRun.hear, payment]
  | @following job request uid watch plain payment own unsettled =>
      have watching : (run.hear call server).session.payment
          = some (.following uid (watch.hear call server)) := by
        simp only [SessionRun.hear, payment]
      exact .following plain watching own (unsettled.hear call server)
  | reporting plain payment own outcome =>
      refine .reporting plain ?_ own outcome
      simp only [SessionRun.hear, payment]

end SessionRun

end WalletTopUp
