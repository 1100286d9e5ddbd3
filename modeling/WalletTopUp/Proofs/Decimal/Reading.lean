import WalletTopUp.Proofs.Decimal.Number
import WalletTopUp.Proofs.Decimal.RoundTrip

/-!
# Reading digits without rounding

A text may have more digits behind its point than a decimal has room for.  Where there is a decimal
for the number that the digits denote, nothing is rounded all the same, for only zeros are left out
(`Decimal.readMagnitude_exact`).
-/

namespace WalletTopUp

namespace Decimal

variable {digits : List Char} {mantissa scale : Nat} {value : Decimal}

/-- The value of digits is below the first number with one digit more. -/
theorem ofDigitChars_lt (allDigits : ∀ c ∈ digits, c.isDigit = true) :
    Nat.ofDigitChars 10 digits 0 < 10 ^ digits.length := by
  induction digits with
  | nil => exact Nat.one_pos
  | cons c digits ih =>
      obtain ⟨first, others⟩ := List.forall_mem_cons.mp allDigits
      have small : c.toNat - '0'.toNat ≤ 9 := by
        have bounds : 48 ≤ c.toNat ∧ c.toNat ≤ 57 := Char.isDigit_iff_toNat.mp first
        have zero : '0'.toNat = 48 := rfl
        omega
      have share : 10 ^ digits.length * (c.toNat - '0'.toNat) ≤ 10 ^ digits.length * 9 :=
        Nat.mul_le_mul_left _ small
      have rest := ih others
      rw [ofDigitChars_cons, Nat.zero_mul, Nat.zero_add, Nat.ofDigitChars_eq_ofDigitChars_zero,
        List.length_cons, Nat.pow_succ]
      omega

/-- Digits that a reader leaves out do not count for the form of the text. -/
theorem all_isDropped (allDigits : ∀ c ∈ digits, c.isDigit = true) :
    digits.all isDropped = true := by
  refine List.all_eq_true.mpr fun c member => ?_
  rw [isDropped, allDigits c member, Bool.true_or]

/-- Where a reader stops there are no more places in a decimal for the whole number: either the
last place has been read, or the number is too large to have a place that has not been read. -/
theorem scale_le_of_stops {c : Char}
    (stops : scale = maxScale ∨ mantissaLimit ≤ mantissa * 10 + (c.toNat - '0'.toNat))
    (denoted : value.mantissa * 10 ^ (scale + (c :: digits).length)
      = Nat.ofDigitChars 10 (c :: digits) mantissa * 10 ^ value.scale) :
    value.scale ≤ scale := by
  rcases stops with rfl | full
  · exact value.scale_le
  · by_contra more
    have grown : (mantissa * 10 + (c.toNat - '0'.toNat)) * 10 ^ digits.length
        ≤ Nat.ofDigitChars 10 (c :: digits) mantissa := by
      rw [ofDigitChars_cons, Nat.ofDigitChars_eq_ofDigitChars_zero, Nat.mul_comm]
      exact Nat.le_add_right _ _
    have places : 10 ^ (scale + 1) ≤ 10 ^ value.scale :=
      Nat.pow_le_pow_right (by decide) (Nat.not_le.mp more)
    have split : 10 ^ (scale + (c :: digits).length) = 10 ^ digits.length * 10 ^ (scale + 1) := by
      rw [List.length_cons, ← Nat.pow_add]
      congr 1
      omega
    have large : (mantissa * 10 + (c.toNat - '0'.toNat)) * (10 ^ digits.length * 10 ^ (scale + 1))
        ≤ value.mantissa * (10 ^ digits.length * 10 ^ (scale + 1)) := by
      rw [← split, denoted, split, ← Nat.mul_assoc]
      exact Nat.mul_le_mul grown places
    have below := Nat.le_of_mul_le_mul_right large (Nat.mul_pos (Nat.pow_pos (by decide))
      (Nat.pow_pos (by decide)))
    exact absurd value.mantissa_lt (Nat.not_lt.mpr (Nat.le_trans full below))

/-- Where a reader stops only zeros follow, if there is a decimal for the whole number: its digits
are a multiple of a power of ten that is larger than what follows. -/
theorem rest_eq_zero {c : Char} (allDigits : ∀ d ∈ c :: digits, d.isDigit = true)
    (stops : scale = maxScale ∨ mantissaLimit ≤ mantissa * 10 + (c.toNat - '0'.toNat))
    (denoted : value.mantissa * 10 ^ (scale + (c :: digits).length)
      = Nat.ofDigitChars 10 (c :: digits) mantissa * 10 ^ value.scale) :
    Nat.ofDigitChars 10 (c :: digits) 0 = 0 := by
  have fewer := scale_le_of_stops stops denoted
  have whole : value.mantissa * 10 ^ (scale - value.scale) * 10 ^ (c :: digits).length
      = Nat.ofDigitChars 10 (c :: digits) mantissa := by
    apply Nat.eq_of_mul_eq_mul_right (Nat.pow_pos (by decide) : 0 < 10 ^ value.scale)
    rw [← denoted, Nat.mul_assoc, Nat.mul_assoc, ← Nat.pow_add, ← Nat.pow_add]
    congr 2
    omega
  rw [Nat.ofDigitChars_eq_ofDigitChars_zero] at whole
  have divides : 10 ^ (c :: digits).length ∣ Nat.ofDigitChars 10 (c :: digits) 0 := by
    rw [← Nat.dvd_add_right (Nat.dvd_mul_right _ mantissa), ← whole]
    exact Nat.dvd_mul_left _ _
  exact Nat.eq_zero_of_dvd_of_lt divides (ofDigitChars_lt allDigits)

/-- **Digits behind the point are read without rounding if there is a decimal for the number that
they denote.** -/
theorem readMagnitude_exact (allDigits : ∀ c ∈ digits, c.isDigit = true)
    (fits : mantissa < mantissaLimit) (places : scale ≤ maxScale)
    (denoted : value.mantissa * 10 ^ (scale + digits.length)
      = Nat.ofDigitChars 10 digits mantissa * 10 ^ value.scale) :
    ∃ read count, readMagnitude true true mantissa scale digits = some (read, count)
      ∧ read < mantissaLimit ∧ count ≤ maxScale
      ∧ read * 10 ^ (scale + digits.length)
          = Nat.ofDigitChars 10 digits mantissa * 10 ^ count := by
  induction digits generalizing mantissa scale with
  | nil => exact ⟨mantissa, scale, rfl, fits, places, rfl⟩
  | cons c digits ih =>
      obtain ⟨first, others⟩ := List.forall_mem_cons.mp allDigits
      have reads : readMagnitude true true mantissa scale (c :: digits)
          = if scale == maxScale || mantissaLimit ≤ mantissa * 10 + (c.toNat - '0'.toNat) then
              finishAt (c.toNat - '0'.toNat) mantissa scale digits
            else readMagnitude true true (mantissa * 10 + (c.toNat - '0'.toNat)) (scale + 1)
              digits := by
        simp only [readMagnitude, ne_of_isDigit first (by decide : '.'.isDigit = _),
          ne_of_isDigit first (by decide : '_'.isDigit = _), digitValue?_of_isDigit first,
          Bool.false_eq_true, if_false, if_true]
      by_cases stops : scale = maxScale
          ∨ mantissaLimit ≤ mantissa * 10 + (c.toNat - '0'.toNat)
      · have zeros := rest_eq_zero allDigits stops denoted
        have digit : c.toNat - '0'.toNat = 0 := by
          rw [ofDigitChars_cons, Nat.zero_mul, Nat.zero_add] at zeros
          exact Nat.eq_zero_of_le_zero (zeros ▸ le_ofDigitChars digits _)
        refine ⟨mantissa, scale, ?_, fits, places, ?_⟩
        · rw [reads, if_pos (by simpa using stops), digit, finishAt, if_pos (all_isDropped others)]
          rfl
        · rw [Nat.ofDigitChars_eq_ofDigitChars_zero, zeros, Nat.add_zero, Nat.pow_add]
          ring
      · rw [reads, if_neg (by simpa using stops)]
        rw [not_or, Nat.not_le] at stops
        have length : scale + (c :: digits).length = scale + 1 + digits.length := by
          rw [List.length_cons]
          omega
        rw [ofDigitChars_cons, length] at denoted ⊢
        exact ih others stops.2 (Nat.lt_of_le_of_ne places stops.1) denoted

end Decimal

end WalletTopUp
