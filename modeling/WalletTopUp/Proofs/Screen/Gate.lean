import WalletTopUp.Proofs.Decimal.Order
import WalletTopUp.Screen.Gate

/-!
# What the gate asks for

The verdict of the limits on a state, what a state that may be submitted consists of, and what it
means for an amount to be within the limits of a top-up and within those of a method.
-/

namespace WalletTopUp

/-- An amount is within the limits of a top-up. -/
def TopUpLimits.Allow (limits : TopUpLimits) (amount : Decimal) : Prop :=
  limits.min.amount.le amount = true ∧ amount.le limits.max.amount = true

/-- An amount is one that a method takes. -/
def PaymentMethod.Takes (method : PaymentMethod) (amount : Decimal) : Prop :=
  (∀ least, method.minAmount = some least → least.le amount = true)
    ∧ ∀ most, method.maxAmount = some most → amount.le most = true

/-- How the fiat amount compares with the limits of the selected method, once both are known. -/
def ScreenState.verdict (state : ScreenState) : Option Bounds := (Gate.check state).map Prod.fst

namespace ScreenState

variable {state : ScreenState}

/-- There is no verdict exactly if the amount or the limits are not known. -/
theorem verdict_eq_none_iff :
    state.verdict = none ↔ state.entry.fiat.amount? = none ∨ state.limits = none := by
  unfold verdict Gate.check
  cases state.entry.fiat.amount? with
  | none => simp
  | some amount => cases state.limits <;> simp

/-- A verdict compares the amount with the limits, narrowed by the selected method. -/
theorem verdict_eq_some_iff {bounds : Bounds} :
    state.verdict = some bounds ↔
      ∃ amount limits, state.entry.fiat.amount? = some amount ∧ state.limits = some limits
        ∧ (Gate.effectiveLimits limits state.selectedMethod).check amount = bounds := by
  unfold verdict Gate.check
  cases state.entry.fiat.amount? with
  | none => simp
  | some amount => cases state.limits <;> simp

end ScreenState

namespace AmountValue

/-- A positive amount is a known one. -/
theorem eq_of_positive? {value : AmountValue} {amount : Decimal}
    (positive : value.positive? = some amount) : value = .value amount := by
  cases value with
  | unknown | zero => cases positive
  | value known =>
      simp only [positive?] at positive
      split at positive
      · exact congrArg _ (Option.some.inj positive)
      · cases positive

/-- A positive amount is the amount itself. -/
theorem amount?_of_positive? {value : AmountValue} {amount : Decimal}
    (positive : value.positive? = some amount) : value.amount? = some amount := by
  rw [eq_of_positive? positive]
  rfl

/-- A positive amount is above zero. -/
theorem isPositive_of_positive? {value : AmountValue} {amount : Decimal}
    (positive : value.positive? = some amount) : amount.isPositive = true := by
  rw [eq_of_positive? positive, positive?] at positive
  split at positive
  · next above => exact above
  · cases positive

end AmountValue

/-- Both bounds are themselves allowed. -/
theorem Bounds.of_eq_within_iff {amount min max : Decimal} :
    Bounds.of amount min max = .within ↔ min.le amount = true ∧ amount.le max = true := by
  rw [Decimal.le_iff_not_lt, Decimal.le_iff_not_lt, Bounds.of]
  split
  · next above => simp only [reduceCtorEq, above, not_true_eq_false, and_false]
  · next notAbove =>
      split
      · next below => simp only [reduceCtorEq, below, not_true_eq_false, false_and]
      · next notBelow =>
          simp only [notBelow, notAbove, Bool.false_eq_true, not_false_eq_true, and_self]

namespace Gate

variable {state : ScreenState}

/-- A state may be submitted if the amount has settled within the limits, both sides are positive,
and there is a method to pay with. -/
theorem canSubmit_iff :
    canSubmit state = true ↔
      state.settled = true ∧ state.bounds = some .within ∧ state.entry.fiat.positive? ≠ none
        ∧ state.entry.token.positive? ≠ none ∧ state.selectedMethod ≠ none := by
  simp only [canSubmit, isSubmittable, Bool.and_eq_true, beq_iff_eq, Option.isSome_iff_ne_none,
    and_assoc]

/-- As long as the amount has not settled, the state may not be submitted. -/
theorem canSubmit_eq_false_of_unsettled (unsettled : state.settled = false) :
    canSubmit state = false := by
  simp only [canSubmit, unsettled, Bool.false_and]

/-- Outside the limits the state may not be submitted. -/
theorem canSubmit_eq_false_of_bounds (outside : state.bounds ≠ some .within) :
    canSubmit state = false :=
  Bool.eq_false_iff.mpr fun may => outside (canSubmit_iff.mp may).2.1

/-- Without a verdict the state may not be submitted. -/
theorem canSubmit_eq_false_of_unchecked (unchecked : state.bounds = none) :
    canSubmit state = false :=
  canSubmit_eq_false_of_bounds fun within => by cases unchecked.symm.trans within

/-- Without a positive amount the state may not be submitted. -/
theorem canSubmit_eq_false_of_fiat (fiat : state.entry.fiat.positive? = none) :
    canSubmit state = false :=
  Bool.eq_false_iff.mpr fun may => (canSubmit_iff.mp may).2.2.1 fiat

/-- An amount within the effective limits is within those of the top-up. -/
theorem within_limits {limits : TopUpLimits} {method : Option PaymentMethod} {amount : Decimal}
    (within : (effectiveLimits limits method).check amount = .within) :
    limits.min.amount.le amount = true ∧ amount.le limits.max.amount = true := by
  obtain ⟨above, below⟩ := Bounds.of_eq_within_iff.mp within
  refine ⟨?_, ?_⟩
  · cases least : method.bind PaymentMethod.minAmount with
    | none =>
        simp only [effectiveLimits, least, Option.map_none, Option.getD_none] at above
        exact above
    | some bound =>
        simp only [effectiveLimits, least, Option.map_some, Option.getD_some] at above
        exact (Decimal.le_of_larger_le above).1
  · cases most : method.bind PaymentMethod.maxAmount with
    | none =>
        simp only [effectiveLimits, most, Option.map_none, Option.getD_none] at below
        exact below
    | some bound =>
        simp only [effectiveLimits, most, Option.map_some, Option.getD_some] at below
        exact (Decimal.le_of_le_smaller below).1

/-- An amount within the effective limits is within those of the method. -/
theorem within_method {limits : TopUpLimits} {method : PaymentMethod} {amount : Decimal}
    (within : (effectiveLimits limits (some method)).check amount = .within) :
    (∀ least, method.minAmount = some least → least.le amount = true)
      ∧ ∀ most, method.maxAmount = some most → amount.le most = true := by
  obtain ⟨above, below⟩ := Bounds.of_eq_within_iff.mp within
  refine ⟨fun least known => ?_, fun most known => ?_⟩
  · simp only [effectiveLimits, Option.bind_some, known, Option.map_some,
      Option.getD_some] at above
    exact (Decimal.le_of_larger_le above).2
  · simp only [effectiveLimits, Option.bind_some, known, Option.map_some,
      Option.getD_some] at below
    exact (Decimal.le_of_le_smaller below).2

/-- The effective limits are those of the top-up and those of the method together. -/
theorem check_eq_within_iff {limits : TopUpLimits} {method : PaymentMethod} {amount : Decimal} :
    (effectiveLimits limits (some method)).check amount = .within ↔
      limits.Allow amount ∧ method.Takes amount := by
  constructor
  · exact fun within => ⟨within_limits within, within_method within⟩
  · rintro ⟨⟨above, below⟩, takesAbove, takesBelow⟩
    refine Bounds.of_eq_within_iff.mpr ⟨?_, ?_⟩
    · cases least : method.minAmount with
      | none => simpa only [effectiveLimits, Option.bind_some, least, Option.map_none,
          Option.getD_none] using above
      | some bound =>
          simp only [effectiveLimits, Option.bind_some, least, Option.map_some, Option.getD_some]
          exact Decimal.larger_le above (takesAbove bound least)
    · cases most : method.maxAmount with
      | none => simpa only [effectiveLimits, Option.bind_some, most, Option.map_none,
          Option.getD_none] using below
      | some bound =>
          simp only [effectiveLimits, Option.bind_some, most, Option.map_some, Option.getD_some]
          exact Decimal.le_smaller below (takesBelow bound most)

end Gate

end WalletTopUp
