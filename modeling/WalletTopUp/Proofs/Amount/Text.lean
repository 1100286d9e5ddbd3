import WalletTopUp.Amount.Value
import WalletTopUp.Proofs.Amount.Number

/-!
# What the text of an amount stands for

The text of every decimal has the form of a typed amount, so it is read by the amount field and,
unless the decimal is below zero, by the broker.  An amount whose zero is written as zero is read
back from the text that the amount field has for it (`AmountValue.ofText?_fieldText`), with the same
scale.
-/

namespace WalletTopUp

/-! ## The form of the text -/

namespace Decimal

/-- The broker takes the text of every decimal that is not below zero. -/
theorem isUnsignedChars_magnitudeText (mantissa scale : Nat) :
    Amount.isUnsignedChars (magnitudeText mantissa scale) = true := by
  have long := length_paddedDigits mantissa scale
  have digits : ∀ c ∈ paddedDigits mantissa scale, c.isDigit = true :=
    fun _ member => isDigit_of_mem_paddedDigits member
  generalize padded : paddedDigits mantissa scale = text at long digits
  have whole : ∀ c ∈ text.take (text.length - scale), c.isDigit = true :=
    fun c member => digits c (List.mem_of_mem_take member)
  have wholeFull : text.take (text.length - scale) ≠ [] := by
    rw [← List.length_pos_iff, List.length_take]
    omega
  cases scale with
  | zero =>
      simp only [magnitudeText, padded]
      exact Amount.isUnsignedChars_iff.mpr (.whole ⟨wholeFull, whole⟩)
  | succ scale =>
      have fractionFull : text.drop (text.length - (scale + 1)) ≠ [] := by
        rw [← List.length_pos_iff, List.length_drop]
        omega
      simp only [magnitudeText, padded]
      exact Amount.isUnsignedChars_iff.mpr (.fraction ⟨wholeFull, whole⟩
        ⟨fractionFull, fun c member => digits c (List.mem_of_mem_drop member)⟩)

theorem isNonNegative_toText {amount : Decimal} (positive : amount.isPositive = true) :
    Amount.isNonNegative amount.toText = true := by
  have unsigned : amount.negative = false := by
    simp only [isPositive, Bool.and_eq_true, Bool.not_eq_true'] at positive
    exact positive.1
  rw [Amount.isNonNegative, toText, String.toList_ofList, toChars, unsigned]
  exact isUnsignedChars_magnitudeText _ _

/-- The amount field takes the text of every decimal. -/
theorem isNumeric_toText (amount : Decimal) : Amount.isNumeric amount.toText = true := by
  rw [Amount.isNumeric, toText, String.toList_ofList, toChars]
  have unsigned := isUnsignedChars_magnitudeText amount.mantissa amount.scale
  split
  · exact unsigned
  · exact (Amount.isUnsignedChars_iff.mp unsigned).isNumericChars

end Decimal

/-! ## What is read from it -/

namespace AmountValue

/-- A known amount is not zero. -/
def IsProper (value : AmountValue) : Prop := ∀ amount, value = .value amount → amount.isZero = false

theorem isProper_ofDecimal (amount : Decimal) : (ofDecimal amount).IsProper := by
  intro known same
  unfold ofDecimal at same
  split at same
  · cases same
  · next nonzero =>
      obtain rfl := AmountValue.value.inj same
      exact Bool.eq_false_iff.mpr nonzero

theorem isProper_of_ofText? {text : String} {value : AmountValue}
    (typed : ofText? text = some value) : value.IsProper := by
  unfold ofText? at typed
  split at typed
  · obtain rfl := Option.some.inj typed
    intro amount same
    cases same
  · split at typed
    · obtain ⟨amount, _, rfl⟩ := Option.map_eq_some_iff.mp typed
      exact isProper_ofDecimal amount
    · cases typed

/-- A text of the form of an amount is not empty, so it stands for what is read as a decimal. -/
theorem ofText?_of_isNumeric {text : String} (numeric : Amount.isNumeric text = true) :
    ofText? text = (Decimal.ofText? text).map ofDecimal := by
  have full : text.isEmpty = false := by
    refine Bool.eq_false_iff.mpr fun empty => ?_
    rw [String.isEmpty_iff.mp empty] at numeric
    cases numeric
  rw [ofText?, full, numeric]
  rfl

/-- The text of a decimal stands for the amount of this decimal. -/
theorem ofText?_toText (amount : Decimal) : ofText? amount.toText = some (ofDecimal amount) := by
  rw [ofText?_of_isNumeric amount.isNumeric_toText, Decimal.ofText?_toText, Option.map_some]

/-- What the screen shows for a known amount stands for this amount. -/
theorem ofText?_display {amount : Decimal} (nonzero : amount.isZero = false) :
    ofText? (value amount).display = some (value amount) := by
  rw [display, ofText?_toText, ofDecimal, nonzero]
  rfl

/-- **The text that the amount field has for an amount stands for this amount.** -/
theorem ofText?_fieldText {value : AmountValue} (proper : value.IsProper) :
    ofText? value.fieldText = some value := by
  cases value with
  | unknown => rfl
  | zero => decide +kernel
  | value amount => exact ofText?_display (proper amount rfl)

end AmountValue

end WalletTopUp
