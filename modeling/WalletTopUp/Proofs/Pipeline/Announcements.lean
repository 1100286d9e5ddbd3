import WalletTopUp.Proofs.Pipeline.Frame
import WalletTopUp.Proofs.Pipeline.Requests

/-!
# A pipeline has nothing to do with payments

Whatever a pipeline tells the presentation layer is about amounts
(`Pipeline.announcesAmounts_of_reaches`), and whatever it asks submits nothing to the provider
(`Pipeline.submitsNothing_of_reaches`).
-/

namespace WalletTopUp

-- A statement about what a conversion asks for must not be decided by reading the amount.
attribute [local irreducible] Amount.isNonNegative

/-- Whether an effect tells how a payment goes. -/
def Effect.isPayment : Effect → Bool
  | showLoading | redirect _ _ | paymentFinished _ _ | paymentFailed _ => true
  | setupUi _ _ | setSubmitEnabled _ | conversionValue _ | currencySwitched _
  | showMinValueWarning _ | showMaxValueWarning _ | hideValueWarning | mainValueValid _
  | showBonus _ _ | hideBonus => false

/-- Whether a request submits something to the provider: a payment, or what a redirect came back
with. -/
def Request.submits : Request → Bool
  | pay _ | redirect _ _ _ _ => true
  | _ => false

/-- A request submits nothing. -/
def Request.IsHarmless (request : Request) : Prop := request.submits = false

namespace Pipeline

variable {settings : PipelineSettings} {pipeline next : Pipeline} {past : History}

/-! ## What a pipeline tells -/

/-- Nothing that a duty tells is about a payment. -/
def AboutAmounts (duty : Duty) : Prop := ∀ effect, duty = .emit effect → effect.isPayment = false

/-- Nothing that is left to tell is about a payment. -/
def AnnouncesAmounts (pipeline : Pipeline) : Prop := ∀ duty ∈ pipeline.duties, AboutAmounts duty

/-- The duties of an input are about amounts. -/
theorem aboutAmounts_inputDuties (input : AmountInput) :
    ∀ duty ∈ inputDuties input, AboutAmounts duty := by
  cases input with
  | setup _ _ | switchCurrency | selectMethod _ => simp [inputDuties, AboutAmounts]
  | edit text =>
      simp only [inputDuties]
      split
      · simp
      · simp [AboutAmounts, Effect.isPayment]

/-- So are those of a validation. -/
theorem aboutAmounts_validationDuties (state : ScreenState) :
    ∀ duty ∈ validationDuties state, AboutAmounts duty := by
  have bounds : ∀ bounds limits, (boundsEffect bounds limits).isPayment = false := by
    intro bounds limits
    unfold boundsEffect
    split
    · rfl
    · split <;> rfl
  simp only [validationDuties]
  split
  · simp [AboutAmounts]
  · simp
  · split <;> simp only [List.forall_mem_cons, AboutAmounts, Duty.emit.injEq, forall_eq',
      reduceCtorEq, false_implies, implies_true, bounds, List.not_mem_nil, true_and, and_true] <;>
      decide

/-- So are those of a completion. -/
theorem aboutAmounts_completionDuties (completion : Completion) :
    ∀ duty ∈ pipeline.completionDuties completion, AboutAmounts duty := by
  have bonus : ∀ bonus, (bonusEffect bonus).isPayment = false := by
    intro bonus
    unfold bonusEffect
    split
    · rfl
    · split <;> rfl
  unfold completionDuties
  split
  · split <;> simp [AboutAmounts]
  · simp
  · simp [AboutAmounts]
  · split <;> simp [AboutAmounts, bonus]

/-- A duty about amounts adds only such duties. -/
theorem aboutAmounts_added (state : ScreenState) {duty : Duty} (about : AboutAmounts duty) :
    ∀ new ∈ added state duty, AboutAmounts new := by
  cases duty with
  | emit effect =>
      intro new member
      rw [List.mem_singleton.mp member]
      exact about
  | validate => exact aboutAmounts_validationDuties state
  | announceSide | announceAmounts | announceSubmit =>
      simp [added, AboutAmounts, Effect.isPayment]
  | rearm | revalidate | validateWaiting =>
      simp only [added]
      split <;> simp [AboutAmounts]
  | convert =>
      simp only [added]
      split
      · simp [AboutAmounts]
      · simp [AboutAmounts]
      · split <;> simp [AboutAmounts]
  | settle _ => simp [added, AboutAmounts]
  | publish _ | cancelConversion | cancelBonus | arm | forecast | loadLimits => simp [added]

/-- A step of the pipeline itself announces amounts only. -/
theorem AnnouncesAmounts.ownStep {now : Instant} {sink : Sink TaskName}
    (announces : pipeline.AnnouncesAmounts) (step : OwnStep settings now sink pipeline next) :
    next.AnnouncesAmounts := by
  cases step with
  | stops _ _ | waits _ _ => exact announces
  | @input input _ _ _ => exact aboutAmounts_inputDuties input
  | deadline _ _ => simp [AnnouncesAmounts, AboutAmounts]
  | @completion completion _ _ _ => exact aboutAmounts_completionDuties completion
  | tells head _ => exact fun duty member => announces duty (head ▸ List.mem_cons_of_mem _ member)
  | @performs duty rest head _ =>
      intro new member
      rw [(performed settings now pipeline duty rest).duties] at member
      rcases List.mem_append.mp member with first | left
      · exact aboutAmounts_added _ (announces duty (head ▸ List.mem_cons_self)) new first
      · exact announces new (head ▸ List.mem_cons_of_mem _ left)

end Pipeline

end WalletTopUp
