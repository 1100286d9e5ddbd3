import WalletTopUp.Proofs.Payment.Submission
import WalletTopUp.Proofs.Pipeline.Announcements
import WalletTopUp.Proofs.Session.Moves

/-!
# Episodes of payments

Everything that belongs to payments, read off the history of a screen (`SessionRun.trace`): clicks
and returns that are accepted, payments that begin, what the provider is asked, and what the
presentation layer is told.  `Episode` is what belongs to one payment from its acceptance to its
outcome, and `PaymentJob.outcome_of_course` says what the outcome of a payment can be.
-/

namespace WalletTopUp

/-! ## What payments come to -/

/-- The effects with which a payment ends.  One that has finished has come to a final status. -/
def Effect.IsOutcome : Effect → Prop
  | .redirect _ _ => True
  | .paymentFinished _ status => status.isFinal = true
  | .paymentFailed _ => True
  | _ => False

/-- What the provider is asked for a payment, once the wallet has been found. -/
def PaymentJob.contact : PaymentJob → String → Request
  | topUp order, wallet => .pay (order.request wallet none)
  | redirect uid details paymentData, wallet => .redirect uid wallet details paymentData

namespace Payment

variable {α : Type} {requests : List Request} {heard : List Answered}

/-- An operation that submits something to the provider does so once at most. -/
theorem submits_once {contact : String → Request}
    {read : ∀ wallet, (contact wallet).Answer → Except PaymentError α}
    {exchange : Exchange (Except PaymentError α)}
    (contacts : Contacts contact read requests heard exchange) :
    ∃ request? : Option Request, requests.filter Request.submits = request?.toList
      ∧ ∀ request ∈ request?, ∃ wallet, request = contact wallet := by
  by_cases found : ∃ wallet, Answered.wallet (.ok wallet) ∈ heard
  · obtain ⟨wallet, found⟩ := found
    rcases contacts.found wallet found with rfl | ⟨rfl, _⟩
    · rw [List.filter_cons_of_neg (by decide)]
      by_cases submits : (contact wallet).submits = true
      · refine ⟨some (contact wallet), List.filter_cons_of_pos submits, fun request same => ?_⟩
        exact ⟨wallet, (Option.mem_some.mp same).symm⟩
      · exact ⟨none, List.filter_cons_of_neg submits, fun _ none => (by cases none)⟩
    · exact ⟨none, rfl, fun _ none => (by cases none)⟩
  · refine ⟨none, List.filter_eq_nil_iff.mpr fun request member => ?_,
      fun _ none => (by cases none)⟩
    rcases contacts.nothingElse request member with rfl | ⟨wallet, here, _⟩
    · exact Bool.false_ne_true
    · exact (found ⟨wallet, here⟩).elim

end Payment

namespace PaymentJob

variable {job : PaymentJob} {requests : List Request} {heard : List Answered}
  {exchange : Exchange PaymentResult} {result : PaymentResult}

/-- What a payment submits to the provider: at most one request, and that is its own. -/
theorem submits_once (course : job.dialogue.Course requests heard exchange) :
    ∃ request? : Option Request, requests.filter Request.submits = request?.toList
      ∧ ∀ request ∈ request?, ∃ wallet, request = job.contact wallet := by
  cases job with
  | topUp order =>
      rw [dialogue, Payment.submitTopUp_eq] at course
      exact Payment.submits_once (Payment.contacts_of_course nofun course)
  | redirect uid details paymentData =>
      rw [dialogue, Payment.submitRedirect_eq] at course
      exact Payment.submits_once (Payment.contacts_of_course nofun course)

end PaymentJob

/-! ## The trace of payments -/

/-- Something that belongs to a payment. -/
inductive PaymentEvent where
  /-- A click on the submit control or a return from a redirect is accepted. -/
  | accepted (job : PaymentJob)
  /-- The payment begins. -/
  | begun (job : PaymentJob)
  /-- Something is submitted to the provider. -/
  | requested (request : Request)
  /-- The presentation layer is told how the payment goes. -/
  | told (effect : Effect)

namespace PaymentEvent

/-- What the presentation layer is told. -/
def told? : PaymentEvent → Option Effect
  | told effect => some effect
  | _ => none

/-- What is submitted to the provider. -/
def requested? : PaymentEvent → Option Request
  | requested request => some request
  | _ => none

end PaymentEvent

/-- A payment that the session plans has been accepted. -/
def SessionDuty.accepted? : SessionDuty → Option PaymentEvent
  | pay job => some (.accepted job)
  | _ => none

/-- What belongs to a payment before it begins.  A click is answered by a sign that it works. -/
def PaymentJob.lead : PaymentJob → List PaymentEvent
  | topUp order => [.accepted (.topUp order), .told .showLoading]
  | redirect uid details paymentData => [.accepted (.redirect uid details paymentData)]

/-- One payment from its acceptance to its outcome. -/
structure Episode where
  job : PaymentJob
  /-- What is submitted to the provider, if the wallet is found. -/
  request : Option Request
  outcome : Effect

namespace Episode

/-- What belongs to a payment once it has begun and before its outcome is told. -/
def begun (job : PaymentJob) (request : Option Request) : List PaymentEvent :=
  job.lead ++ .begun job :: request.toList.map .requested

/-- Everything that belongs to a payment. -/
def events (episode : Episode) : List PaymentEvent :=
  begun episode.job episode.request ++ [.told episode.outcome]

/-- A payment submits nothing but what it is for, and ends with an outcome. -/
structure IsProper (episode : Episode) : Prop where
  request : ∀ request ∈ episode.request, ∃ wallet, request = episode.job.contact wallet
  outcome : episode.outcome.IsOutcome

end Episode

/-! ## What a history says -/

namespace SessionRun

variable {settings : SessionSettings} {run next : SessionRun} {event : Move} {past : History}

/-- A step of the session that had nothing left to do accepts what it plans to pay. -/
def accepts (before after : SessionRun) : List PaymentEvent :=
  match before.session.duties with
  | [] => after.session.duties.filterMap SessionDuty.accepted?
  | _ => []

/-- A step of the session begins the payment that comes first. -/
def begins (before : SessionRun) (event : Move) : List PaymentEvent :=
  match event, before.session.duties with
  | .step .session, .pay job :: _ => [.begun job]
  | _, _ => []

/-- What the presentation layer has been told of payments between two states. -/
def announced (before after : SessionRun) : List Effect :=
  (after.sink.accepted.drop before.sink.accepted.length).filter Effect.isPayment

end SessionRun

end WalletTopUp
