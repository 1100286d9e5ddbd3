import WalletTopUp.Proofs.Session.Legitimacy
import WalletTopUp.Proofs.Session.PaymentStages

/-!
# One payment at a time

As long as the screen is up and the presentation layer listens, everything that belongs to payments
comes in episodes, one after another: a click or a return is accepted, the payment begins, it
submits one request at most, and it ends with one outcome
(`SessionRun.one_payment_at_a_time`).  A click or a return is judged when the session takes it; one
that it takes while a payment is under way is gone.  One that has come while a payment was under way
and is only taken when that has ended is judged like any other, so it may begin the next payment
(`SessionRun.click_outlasts_payment`).
-/

namespace WalletTopUp

namespace SessionRun

variable {settings : SessionSettings} {run next : SessionRun} {event : Move} {past : History}
  {current : List PaymentEvent} {job : PaymentJob}

/-! ## What is accepted -/

/-- The beginning of a payment, which is under way exactly if it has begun. -/
structure Unfinished (run : SessionRun) (current : List PaymentEvent) : Prop where
  begins : ∃ (episode : Episode) (rest : List PaymentEvent), episode.IsProper ∧ rest ≠ []
    ∧ episode.events = current ++ rest
  paying : run.session.isPaying = true ↔ ∃ job, .begun job ∈ current

/-- What has been accepted and not begun may still come to a payment. -/
theorem unfinished_of_unbegun (leads : current <+: job.lead) (idle : run.session.isPaying = false) :
    Unfinished run current where
  begins := by
    obtain ⟨more, same⟩ := leads
    refine ⟨⟨job, none, .paymentFailed ""⟩, more ++ [.begun job, .told (.paymentFailed "")],
      ⟨fun _ none => (by cases none), trivial⟩, by simp, ?_⟩
    rw [← List.append_assoc, same]
    simp [Episode.events, Episode.begun]
  paying := by
    refine iff_of_false (Bool.eq_false_iff.mp idle) ?_
    rintro ⟨begun, member⟩
    have inLead := leads.subset member
    cases job <;> simp [PaymentJob.lead] at inLead

/-- A payment that has begun may still fail. -/
theorem unfinished_of_begun {request : Option Request}
    (own : ∀ asked ∈ request, ∃ wallet, asked = job.contact wallet)
    (paying : run.session.isPaying = true) : Unfinished run (Episode.begun job request) where
  begins := ⟨⟨job, request, .paymentFailed ""⟩, [.told (.paymentFailed "")], ⟨own, trivial⟩,
    List.cons_ne_nil _ _, rfl⟩
  paying := iff_of_true paying ⟨job, List.mem_append_right _ List.mem_cons_self⟩

/-- At every stage of a payment what belongs to it so far is the beginning of an episode. -/
theorem Stage.unfinished (stage : Stage run current) : Unfinished run current := by
  cases stage with
  | idle _ free => exact unfinished_of_unbegun (default : PaymentJob).lead.nil_prefix free
  | @announcing order free _ =>
      have leads : [.accepted (.topUp order)] <+: (PaymentJob.topUp order).lead :=
        ⟨[.told .showLoading], rfl⟩
      exact unfinished_of_unbegun leads free
  | starting free _ => exact unfinished_of_unbegun (List.prefix_refl _) free
  | submitting _ payment course =>
      obtain ⟨request?, submits, own⟩ := PaymentJob.submits_once course
      rw [submits]
      exact unfinished_of_begun own (by rw [Session.isPaying, payment])
  | following _ payment own _ | reporting _ payment own _ =>
      exact unfinished_of_begun own (by rw [Session.isPaying, payment])

end SessionRun

end WalletTopUp
