import WalletTopUp.Decimal.Printer
import WalletTopUp.Proofs.Text.Blank

/-!
# The characters of a decimal's text

A decimal is printed with digits, a point and a minus sign only, so trimming its text changes
nothing.
-/

namespace WalletTopUp

namespace Decimal

theorem isDigit_of_mem_paddedDigits {mantissa scale : Nat} {c : Char}
    (member : c ∈ paddedDigits mantissa scale) : c.isDigit = true := by
  rcases List.mem_append.mp member with zero | digit
  · rw [List.eq_of_mem_replicate zero]
    rfl
  · exact Nat.isDigit_of_mem_toDigits (by decide) (by decide) digit

theorem mem_magnitudeText {mantissa scale : Nat} {c : Char}
    (member : c ∈ magnitudeText mantissa scale) : c.isDigit = true ∨ c = '.' := by
  cases scale with
  | zero => exact .inl (isDigit_of_mem_paddedDigits (List.mem_of_mem_take member))
  | succ scale =>
      rcases List.mem_append.mp member with whole | fraction
      · exact .inl (isDigit_of_mem_paddedDigits (List.mem_of_mem_take whole))
      · rcases List.mem_cons.mp fraction with point | digit
        · exact .inr point
        · exact .inl (isDigit_of_mem_paddedDigits (List.mem_of_mem_drop digit))

theorem mem_toChars {value : Decimal} {c : Char} (member : c ∈ value.toChars) :
    c.isDigit = true ∨ c = '.' ∨ c = '-' := by
  unfold toChars at member
  split at member
  · rcases List.mem_cons.mp member with sign | magnitude
    · exact .inr (.inr sign)
    · exact (mem_magnitudeText magnitude).imp_right .inl
  · exact (mem_magnitudeText member).imp_right .inl

/-- Nothing is trimmed from the text of a decimal. -/
theorem trim_toChars (value : Decimal) : Text.trim value.toChars = value.toChars := by
  refine (Text.IsTrimmed.of_solid fun c member => ?_).trim_eq
  rcases mem_toChars member with digit | rfl | rfl
  · exact Text.isBlank_of_isDigit digit
  · rfl
  · rfl

end Decimal

end WalletTopUp
