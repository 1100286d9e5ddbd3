import Mathlib.Data.List.TakeWhile
import WalletTopUp.Amount.Pattern
import WalletTopUp.Proofs.Decimal.Reading

/-!
# The number of an amount text

An amount text without a sign is digits, or digits, a point and digits (`Amount.Unsigned`), and
denotes a number (`Amount.number`).  If there is a decimal for this number the text is read as a
decimal of it, whatever zeros stand in front of it or behind it (`Amount.exists_ofText?`).
-/

namespace WalletTopUp

namespace Amount

variable {text digits whole fraction : List Char} {value : Decimal}

/-! ## The form of a text -/

/-- One or more digits. -/
structure Digits (text : List Char) : Prop where
  full : text ≠ []
  digit : ∀ c ∈ text, c.isDigit = true

/-- The texts of amounts without a sign. -/
inductive Unsigned : List Char → Prop
  | whole {digits : List Char} : Digits digits → Unsigned digits
  | fraction {whole fraction : List Char} :
      Digits whole → Digits fraction → Unsigned (whole ++ '.' :: fraction)

theorem isDigits_iff : isDigits text = true ↔ Digits text := by
  rw [isDigits, Bool.and_eq_true, Bool.not_eq_true', List.isEmpty_eq_false_iff, List.all_eq_true]
  constructor
  · intro both
    exact ⟨both.1, both.2⟩
  · intro digits
    exact ⟨digits.full, digits.digit⟩

/-- What stands before the point, and what stands from it on. -/
theorem Digits.cut (digits : Digits whole) :
    (whole ++ '.' :: fraction).takeWhile Char.isDigit = whole
      ∧ (whole ++ '.' :: fraction).dropWhile Char.isDigit = '.' :: fraction := by
  have point : Char.isDigit '.' = false := by decide
  rw [List.takeWhile_append_of_pos digits.digit, List.dropWhile_append_of_pos digits.digit,
    List.takeWhile_cons, List.dropWhile_cons, point]
  simp

/-- Digits are read to their end. -/
theorem Digits.cut_whole (digits : Digits whole) :
    whole.takeWhile Char.isDigit = whole ∧ whole.dropWhile Char.isDigit = [] :=
  ⟨List.takeWhile_eq_self_iff.mpr digits.digit, List.dropWhile_eq_nil_iff.mpr digits.digit⟩

/-- **The pattern of unsigned amounts takes the texts of these two forms.** -/
theorem isUnsignedChars_iff : isUnsignedChars text = true ↔ Unsigned text := by
  constructor
  · intro matched
    have parts := List.takeWhile_append_dropWhile (p := Char.isDigit) (l := text)
    unfold isUnsignedChars at matched
    split at matched
    · exact .whole (isDigits_iff.mp matched)
    · next fraction behind =>
        rw [Bool.and_eq_true, isDigits_iff, isDigits_iff] at matched
        rw [behind] at parts
        rw [← parts]
        exact .fraction matched.1 matched.2
    · cases matched
  · intro unsigned
    cases unsigned with
    | whole digits =>
        rw [isUnsignedChars, digits.cut_whole.2]
        exact isDigits_iff.mpr digits
    | fraction whole fraction =>
        rw [isUnsignedChars, whole.cut.2, whole.cut.1]
        simp only [isDigits_iff.mpr whole, isDigits_iff.mpr fraction, Bool.and_self]

/-! ## The number of a text -/

/-- The number that digits, with or without a point among them, denote. -/
def number (text : List Char) : ℚ :=
  let whole := text.takeWhile Char.isDigit
  let fraction := (text.dropWhile Char.isDigit).drop 1
  Nat.ofDigitChars 10 whole 0 + Nat.ofDigitChars 10 fraction 0 / 10 ^ fraction.length

/-- Digits alone denote the number they write in base ten. -/
theorem number_whole (all : Digits digits) : number digits = Nat.ofDigitChars 10 digits 0 := by
  simp only [number, all.cut_whole.1, all.cut_whole.2, List.drop_nil, Nat.ofDigitChars_nil,
    Nat.cast_zero, zero_div, add_zero]

/-- With its fraction's places shifted out, a numeral denotes the number its digits write. -/
theorem number_fraction (all : Digits whole) (fraction : List Char) :
    number (whole ++ '.' :: fraction) * 10 ^ fraction.length
      = Nat.ofDigitChars 10 (whole ++ fraction) 0 := by
  have total : Nat.ofDigitChars 10 (whole ++ fraction) 0
      = 10 ^ fraction.length * Nat.ofDigitChars 10 whole 0 + Nat.ofDigitChars 10 fraction 0 := by
    rw [Nat.ofDigitChars_append]
    exact Nat.ofDigitChars_eq_ofDigitChars_zero
  simp only [number, all.cut.1, all.cut.2, List.drop_one, List.tail_cons]
  rw [total, add_mul, div_mul_cancel₀ _ (by positivity)]
  push_cast
  ring

theorem number_nonneg (text : List Char) : 0 ≤ number text := by
  unfold number
  positivity

/-! ## Reading a text -/

/-- The mantissa of a decimal that is not below zero. -/
theorem mantissa_of_toRat (nonnegative : 0 ≤ value.toRat) :
    (value.mantissa : ℚ) = value.toRat * 10 ^ value.scale := by
  rw [← value.abs_toRat_mul, abs_of_nonneg nonnegative]

/-- A text is read as digits and a scale that denote its number. -/
def IsRead (text : List Char) : Prop :=
  ∃ mantissa scale, Decimal.readMagnitude false false 0 0 text = some (mantissa, scale)
    ∧ mantissa < Decimal.mantissaLimit ∧ scale ≤ Decimal.maxScale
    ∧ (mantissa : ℚ) / 10 ^ scale = number text

/-- Digits alone are read as the number they denote. -/
theorem isRead_of_whole (all : Digits text) (denoted : value.toRat = number text) :
    IsRead text := by
  have size := mantissa_of_toRat (denoted ▸ number_nonneg text)
  rw [denoted, number_whole all] at size
  have same : value.mantissa = Nat.ofDigitChars 10 text 0 * 10 ^ value.scale := by
    exact_mod_cast size
  have unit : 1 ≤ 10 ^ value.scale := Nat.one_le_pow _ _ (by decide)
  have fits : Nat.ofDigitChars 10 text 0 < Decimal.mantissaLimit :=
    Nat.lt_of_le_of_lt (Nat.le_mul_of_pos_right _ unit) (same ▸ value.mantissa_lt)
  refine ⟨_, 0, ?_, fits, Nat.zero_le _, by rw [pow_zero, div_one, number_whole all]⟩
  rw [← List.append_nil text, Decimal.readMagnitude_whole false all.digit fits,
    List.isEmpty_eq_false_iff.mpr all.full, List.append_nil]
  rfl

/-- Without their point the digits of a text are those of a decimal with the same number, up to the
places of both. -/
theorem mantissa_mul_of_fraction (all : Digits whole)
    (denoted : value.toRat = number (whole ++ '.' :: fraction)) :
    value.mantissa * 10 ^ fraction.length
      = Nat.ofDigitChars 10 fraction (Nat.ofDigitChars 10 whole 0) * 10 ^ value.scale := by
  have size := mantissa_of_toRat (denoted ▸ number_nonneg _)
  have scaled : (value.mantissa : ℚ) * 10 ^ fraction.length
      = Nat.ofDigitChars 10 (whole ++ fraction) 0 * 10 ^ value.scale := by
    rw [size, denoted, ← number_fraction all fraction]
    ring
  rw [← Nat.ofDigitChars_append]
  exact_mod_cast scaled

/-- The digits before the point fit if all digits are those of a decimal. -/
theorem whole_lt_of_mantissa_mul
    (same : value.mantissa * 10 ^ fraction.length
      = Nat.ofDigitChars 10 fraction (Nat.ofDigitChars 10 whole 0) * 10 ^ value.scale) :
    Nat.ofDigitChars 10 whole 0 < Decimal.mantissaLimit := by
  have split : Nat.ofDigitChars 10 fraction (Nat.ofDigitChars 10 whole 0)
      = 10 ^ fraction.length * Nat.ofDigitChars 10 whole 0
        + Nat.ofDigitChars 10 fraction 0 := Nat.ofDigitChars_eq_ofDigitChars_zero
  refine Nat.lt_of_le_of_lt ?_ value.mantissa_lt
  apply Nat.le_of_mul_le_mul_right _ (Nat.pow_pos (by decide) : 0 < 10 ^ fraction.length)
  calc Nat.ofDigitChars 10 whole 0 * 10 ^ fraction.length
      ≤ Nat.ofDigitChars 10 fraction (Nat.ofDigitChars 10 whole 0) := by
        rw [split, Nat.mul_comm]
        exact Nat.le_add_right _ _
    _ ≤ _ := Nat.le_mul_of_pos_right _ (Nat.one_le_pow _ _ (by decide))
    _ = value.mantissa * 10 ^ fraction.length := same.symm

/-- Digits with a fraction are read as the number they denote. -/
theorem isRead_of_fraction (all : Digits whole) (rest : Digits fraction)
    (denoted : value.toRat = number (whole ++ '.' :: fraction)) :
    IsRead (whole ++ '.' :: fraction) := by
  have same := mantissa_mul_of_fraction all denoted
  have fits := whole_lt_of_mantissa_mul same
  obtain ⟨read, count, reads, room, places, exact⟩ :=
    Decimal.readMagnitude_exact rest.digit fits (Nat.zero_le _) (by rw [Nat.zero_add]; exact same)
  refine ⟨read, count, ?_, room, places, ?_⟩
  · rw [Decimal.readMagnitude_whole false all.digit fits, List.isEmpty_eq_false_iff.mpr all.full]
    exact reads
  · rw [Nat.zero_add, ← Nat.ofDigitChars_append] at exact
    have scaled : (read : ℚ) * 10 ^ fraction.length
        = Nat.ofDigitChars 10 (whole ++ fraction) 0 * 10 ^ count := by
      exact_mod_cast exact
    rw [← number_fraction all fraction] at scaled
    rw [div_eq_iff (by positivity)]
    apply mul_right_cancel₀ (by positivity : (10 : ℚ) ^ fraction.length ≠ 0)
    rw [scaled]
    ring

/-- Every unsigned numeral is read as the number it denotes. -/
theorem Unsigned.isRead (unsigned : Unsigned text) (denoted : value.toRat = number text) :
    IsRead text := by
  cases unsigned with
  | whole all => exact isRead_of_whole all denoted
  | fraction all rest => exact isRead_of_fraction all rest denoted

/-- A text without a sign has none to take off. -/
theorem Unsigned.takeSign (unsigned : Unsigned text) : Decimal.takeSign text = (false, text) := by
  have first : ∃ c rest, text = c :: rest ∧ c.isDigit = true := by
    cases unsigned with
    | whole all =>
        obtain ⟨c, rest, rfl⟩ := List.exists_cons_of_ne_nil all.full
        exact ⟨c, rest, rfl, all.digit c List.mem_cons_self⟩
    | fraction all _ =>
        obtain ⟨c, rest, rfl⟩ := List.exists_cons_of_ne_nil all.full
        exact ⟨c, _, rfl, all.digit c List.mem_cons_self⟩
  obtain ⟨c, rest, rfl, digit⟩ := first
  unfold Decimal.takeSign
  split
  · next same =>
      rw [(List.cons.inj same).1] at digit
      cases digit
  · next same =>
      rw [(List.cons.inj same).1] at digit
      cases digit
  · rfl

/-- The amount field takes a text without a sign as a whole. -/
theorem Unsigned.isNumericChars (unsigned : Unsigned text) : isNumericChars text = true := by
  unfold Amount.isNumericChars
  split
  · have signed := unsigned.takeSign
    cases signed
  · exact isUnsignedChars_iff.mpr unsigned

/-- **A text is read as a decimal of the number that it denotes**, if there is one. -/
theorem exists_ofText? {text : String} (unsigned : isNonNegative text = true)
    (denoted : value.toRat = number text.toList) :
    ∃ read, Decimal.ofText? text = some read ∧ read.toRat = value.toRat := by
  have form := isUnsignedChars_iff.mp unsigned
  obtain ⟨mantissa, scale, reads, fits, places, same⟩ := form.isRead denoted
  refine ⟨Decimal.ofParts false mantissa scale fits places, ?_,
    (Decimal.toRat_ofParts false fits places).trans (same.trans denoted.symm)⟩
  rw [Decimal.ofText?, Decimal.ofChars?,
    Decimal.parsePlain?_of_readMagnitude form.takeSign reads fits places]

end Amount

end WalletTopUp
