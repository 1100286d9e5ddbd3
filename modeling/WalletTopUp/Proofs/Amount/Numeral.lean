import WalletTopUp.Proofs.Amount.Text

/-!
# The numerals that the amount field takes

A numeral is an optional minus sign, digits and, if there is a point, digits behind it
(`Amount.Numeral`).  A text is the numeral of at most one such form (`Numeral.chars_injective`), and
each of its digits counts by the place it stands at (`Amount.placeValue`).  The amount field takes
the numerals and no other text, although decimals are read from many more texts, and a numeral of
at most 28 digits is kept as it was typed, with its number and its decimal places
(`AmountValue.numerals_kept_exactly`).

The reader of decimals collects digits from the left: ten times what it has, and one digit more.
That this comes to the sum of the digits by their places is settled once, for digits on both sides
of the point (`Amount.placeValue_eq`).
-/

namespace WalletTopUp

namespace Amount

/-! ## Numerals -/

/-- An amount as it is written. -/
@[ext]
structure Numeral where
  /-- Whether there is a minus sign. -/
  negative : Bool
  /-- The digits before the point. -/
  whole : List Char
  /-- The digits behind the point, if there is one. -/
  fraction : Option (List Char)
  whole_digits : Digits whole
  fraction_digits : ∀ digits ∈ fraction, Digits digits

/-- What digits count together if the first of them stands at `place`.  The last digit before the
point stands at place 0. -/
def placeValue : ℤ → List Char → ℚ
  | _, [] => 0
  | place, c :: digits => (c.toNat - '0'.toNat : ℕ) * 10 ^ place + placeValue (place - 1) digits

namespace Numeral

/-- The point and the digits behind it, if there is a point. -/
def pointed (numeral : Numeral) : List Char :=
  match numeral.fraction with
  | none => []
  | some fraction => '.' :: fraction

/-- The numeral without its sign. -/
def magnitude (numeral : Numeral) : List Char := numeral.whole ++ numeral.pointed

/-- The characters of the numeral. -/
def chars (numeral : Numeral) : List Char :=
  if numeral.negative then '-' :: numeral.magnitude else numeral.magnitude

/-- The digits behind the point. -/
def fractionDigits (numeral : Numeral) : List Char := numeral.fraction.getD []

/-- All digits of the numeral. -/
def digits (numeral : Numeral) : List Char := numeral.whole ++ numeral.fractionDigits

/-- How many decimal places are written. -/
def places (numeral : Numeral) : ℕ := numeral.fractionDigits.length

/-- The number that the numeral denotes without its sign. -/
def size (numeral : Numeral) : ℚ :=
  placeValue (numeral.whole.length - 1) numeral.whole + placeValue (-1) numeral.fractionDigits

/-- The number that the numeral denotes. -/
def number (numeral : Numeral) : ℚ := if numeral.negative then -numeral.size else numeral.size

end Numeral

variable {text : List Char} {numeral : Numeral}

/-! ## The text of a numeral -/

namespace Numeral

/-- The digits and the point of a numeral are an unsigned numeral. -/
theorem unsigned_magnitude (numeral : Numeral) : Unsigned numeral.magnitude := by
  obtain ⟨negative, whole, fraction, wholeDigits, fractionDigits⟩ := numeral
  cases fraction with
  | none =>
      rw [magnitude, pointed, List.append_nil]
      exact .whole wholeDigits
  | some fraction => exact .fraction wholeDigits (fractionDigits fraction rfl)

/-- The sign is taken off, whether there is one or not. -/
theorem takeSign_chars (numeral : Numeral) :
    Decimal.takeSign numeral.chars = (numeral.negative, numeral.magnitude) := by
  unfold chars
  split
  · next negative => rw [negative]; rfl
  · next positive => rw [numeral.unsigned_magnitude.takeSign, Bool.eq_false_iff.mpr positive]

/-- The first character that is no digit is the point. -/
theorem cut_magnitude (numeral : Numeral) :
    numeral.magnitude.takeWhile Char.isDigit = numeral.whole
      ∧ numeral.magnitude.dropWhile Char.isDigit = numeral.pointed := by
  obtain ⟨negative, whole, fraction, wholeDigits, fractionDigits⟩ := numeral
  cases fraction with
  | none =>
      rw [magnitude, pointed, List.append_nil]
      exact wholeDigits.cut_whole
  | some fraction => exact wholeDigits.cut

/-- Without the point the fraction is its digits. -/
theorem drop_pointed (numeral : Numeral) : numeral.pointed.drop 1 = numeral.fractionDigits := by
  unfold pointed fractionDigits
  cases numeral.fraction <;> rfl

/-- The point tells an empty fraction from none. -/
theorem fraction_eq_of_pointed_eq {first second : Numeral} (same : first.pointed = second.pointed) :
    first.fraction = second.fraction := by
  obtain ⟨_, _, left, _, _⟩ := first
  obtain ⟨_, _, right, _, _⟩ := second
  cases left with
  | none =>
      cases right with
      | none => rfl
      | some _ => cases same
  | some _ =>
      cases right with
      | none => cases same
      | some _ => exact congrArg some (List.cons.inj same).2

/-- **A text has at most one form.** -/
theorem chars_injective : Function.Injective chars := by
  intro first second same
  have cut : (first.negative, first.magnitude) = (second.negative, second.magnitude) := by
    rw [← takeSign_chars, same, takeSign_chars]
  obtain ⟨signs, magnitudes⟩ := Prod.mk.inj cut
  refine Numeral.ext signs ?_ (fraction_eq_of_pointed_eq ?_)
  · rw [← first.cut_magnitude.1, magnitudes, second.cut_magnitude.1]
  · rw [← first.cut_magnitude.2, magnitudes, second.cut_magnitude.2]

end Numeral

/-! ## The texts that are taken -/

/-- Every text without a sign is a numeral, with either sign before it. -/
theorem Unsigned.exists_numeral (unsigned : Unsigned text) (negative : Bool) :
    ∃ numeral : Numeral, numeral.magnitude = text ∧ numeral.negative = negative := by
  cases unsigned with
  | whole all => exact ⟨⟨negative, _, none, all, nofun⟩, List.append_nil _, rfl⟩
  | fraction all rest =>
      exact ⟨⟨negative, _, some _, all, fun _ same => Option.some.inj same ▸ rest⟩, rfl, rfl⟩

/-- **The broker's pattern takes the numerals without a sign.** -/
theorem isUnsignedChars_iff_numeral : isUnsignedChars text = true
    ↔ ∃ numeral : Numeral, text = numeral.chars ∧ numeral.negative = false := by
  rw [isUnsignedChars_iff]
  constructor
  · intro unsigned
    obtain ⟨numeral, rfl, positive⟩ := unsigned.exists_numeral false
    exact ⟨numeral, by simp [Numeral.chars, positive], positive⟩
  · rintro ⟨numeral, rfl, positive⟩
    simp only [Numeral.chars, positive, Bool.false_eq_true, if_false]
    exact numeral.unsigned_magnitude

/-- **The pattern of the amount field takes the numerals.** -/
theorem isNumericChars_iff_numeral :
    isNumericChars text = true ↔ ∃ numeral : Numeral, text = numeral.chars := by
  constructor
  · intro numeric
    unfold isNumericChars at numeric
    split at numeric
    · obtain ⟨numeral, rfl, negative⟩ := (isUnsignedChars_iff.mp numeric).exists_numeral true
      exact ⟨numeral, by simp [Numeral.chars, negative]⟩
    · obtain ⟨numeral, same, _⟩ := isUnsignedChars_iff_numeral.mp numeric
      exact ⟨numeral, same⟩
  · rintro ⟨numeral, rfl⟩
    unfold Numeral.chars
    split
    · exact isUnsignedChars_iff.mpr numeral.unsigned_magnitude
    · exact numeral.unsigned_magnitude.isNumericChars

/-! ## The number of a numeral -/

/-- **Digits that are collected from the left count by their places.** -/
theorem placeValue_eq (place : ℤ) (digits : List Char) :
    placeValue place digits
      = Nat.ofDigitChars 10 digits 0 * 10 ^ (place + 1 - digits.length) := by
  induction digits generalizing place with
  | nil => simp [placeValue]
  | cons c digits ih =>
      have first : (10 : ℚ) ^ place = 10 ^ digits.length * 10 ^ (place - digits.length) := by
        rw [← zpow_natCast, ← zpow_add₀ (by norm_num)]
        congr 1
        ring
      have rest : place - 1 + 1 - digits.length = place - digits.length := by ring
      have both : place + 1 - (c :: digits).length = place - digits.length := by
        rw [List.length_cons]
        push_cast
        ring
      have collected : Nat.ofDigitChars 10 (c :: digits) 0
          = 10 ^ digits.length * (c.toNat - '0'.toNat) + Nat.ofDigitChars 10 digits 0 := by
        rw [Decimal.ofDigitChars_cons, Nat.zero_mul, Nat.zero_add]
        exact Nat.ofDigitChars_eq_ofDigitChars_zero
      rw [placeValue, ih, rest, both, first, collected]
      push_cast
      ring

/-- The places before the point have the value of the digits as a number. -/
theorem placeValue_whole (digits : List Char) :
    placeValue (digits.length - 1) digits = Nat.ofDigitChars 10 digits 0 := by
  rw [placeValue_eq, sub_add_cancel, sub_self, zpow_zero, mul_one]

/-- The places after the point have the value of the digits, divided by as many tens. -/
theorem placeValue_fraction (digits : List Char) :
    placeValue (-1) digits = Nat.ofDigitChars 10 digits 0 / 10 ^ digits.length := by
  rw [placeValue_eq, neg_add_cancel, zero_sub, zpow_neg, zpow_natCast, div_eq_mul_inv]

namespace Numeral

/-- The digits of a numeral count together what its text denotes. -/
theorem size_eq_number (numeral : Numeral) : numeral.size = Amount.number numeral.magnitude := by
  simp only [size, placeValue_whole, placeValue_fraction, Amount.number, numeral.cut_magnitude.1,
    numeral.cut_magnitude.2, drop_pointed]

/-- Without its point a numeral is the number of all its digits. -/
theorem size_mul (numeral : Numeral) :
    numeral.size * 10 ^ numeral.places = Nat.ofDigitChars 10 numeral.digits 0 := by
  rw [size_eq_number]
  obtain ⟨negative, whole, fraction, wholeDigits, fractionDigits⟩ := numeral
  cases fraction with
  | none =>
      simp only [magnitude, pointed, places, digits, Numeral.fractionDigits, Option.getD_none,
        List.length_nil, pow_zero, mul_one, List.append_nil, number_whole wholeDigits]
  | some fraction => exact number_fraction wholeDigits fraction

/-! ## Reading a numeral -/

/-- The fraction consists of digits. -/
theorem isDigit_of_mem_fractionDigits (numeral : Numeral) :
    ∀ c ∈ numeral.fractionDigits, c.isDigit = true := by
  obtain ⟨negative, whole, fraction, wholeDigits, fractionDigits⟩ := numeral
  cases fraction with
  | none => exact List.forall_mem_nil _
  | some fraction => exact (fractionDigits fraction rfl).digit

/-- All digits of a numeral are digits. -/
theorem isDigit_of_mem_digits (numeral : Numeral) : ∀ c ∈ numeral.digits, c.isDigit = true :=
  List.forall_mem_append.mpr ⟨numeral.whole_digits.digit, numeral.isDigit_of_mem_fractionDigits⟩

/-- A mantissa has room for 28 digits, whichever they are. -/
theorem digits_lt (short : numeral.digits.length ≤ 28) :
    Nat.ofDigitChars 10 numeral.digits 0 < twoPow 96 := by
  calc Nat.ofDigitChars 10 numeral.digits 0
      < 10 ^ numeral.digits.length := Decimal.ofDigitChars_lt numeral.isDigit_of_mem_digits
    _ ≤ 10 ^ 28 := Nat.pow_le_pow_right (by decide) short
    _ < twoPow 96 := by decide

/-- A numeral of few digits has few places. -/
theorem places_le (short : numeral.digits.length ≤ 28) : numeral.places ≤ 28 := by
  refine Nat.le_trans ?_ short
  rw [digits, List.length_append]
  exact Nat.le_add_left _ _

/-- The decimal of a numeral with at most 28 digits. -/
def toDecimal (numeral : Numeral) (short : numeral.digits.length ≤ 28) : Decimal :=
  Decimal.ofParts numeral.negative (Nat.ofDigitChars 10 numeral.digits 0) numeral.places
    (digits_lt short) (places_le short)

/-- **The decimal of a numeral is its number.** -/
theorem toRat_toDecimal (short : numeral.digits.length ≤ 28) :
    (numeral.toDecimal short).toRat = numeral.number := by
  have unit : (10 : ℚ) ^ numeral.places ≠ 0 := by positivity
  rw [toDecimal, Decimal.toRat_ofParts, number, ← size_mul]
  split
  · rw [neg_div, mul_div_cancel_right₀ _ unit]
  · rw [mul_div_cancel_right₀ _ unit]

/-- Behind the digits before the point the rest is read: nothing, or the point and digits that each
add a place. -/
theorem readMagnitude_pointed (short : numeral.digits.length ≤ 28) :
    Decimal.readMagnitude true false (Nat.ofDigitChars 10 numeral.whole 0) 0 numeral.pointed
      = some (Nat.ofDigitChars 10 numeral.digits 0, numeral.places) := by
  have fits := digits_lt short
  have room := places_le short
  rw [digits, Nat.ofDigitChars_append] at fits ⊢
  have behind := Decimal.readMagnitude_fraction numeral.isDigit_of_mem_fractionDigits fits
    ((Nat.zero_add _).trans_le room)
  rw [Nat.zero_add] at behind
  obtain ⟨negative, whole, fraction, wholeDigits, fractionDigits⟩ := numeral
  cases fraction with
  | none => rfl
  | some fraction => exact behind

/-- All digits are read. -/
theorem readMagnitude_magnitude (short : numeral.digits.length ≤ 28) :
    Decimal.readMagnitude false false 0 0 numeral.magnitude
      = some (Nat.ofDigitChars 10 numeral.digits 0, numeral.places) := by
  have wholeFits : Nat.ofDigitChars 10 numeral.whole 0 < Decimal.mantissaLimit := by
    have fits := digits_lt short
    rw [digits, Nat.ofDigitChars_append] at fits
    exact Nat.lt_of_le_of_lt (Decimal.le_ofDigitChars _ _) fits
  rw [magnitude, Decimal.readMagnitude_whole false numeral.whole_digits.digit wholeFits,
    List.isEmpty_eq_false_iff.mpr numeral.whole_digits.full]
  exact readMagnitude_pointed short

/-- **A numeral is read as its decimal.** -/
theorem ofChars?_chars (short : numeral.digits.length ≤ 28) :
    Decimal.ofChars? numeral.chars = some (numeral.toDecimal short) := by
  rw [Decimal.ofChars?, Decimal.parsePlain?_of_readMagnitude numeral.takeSign_chars
    (readMagnitude_magnitude short) (digits_lt short) (places_le short)]
  rfl

end Numeral

end Amount

/-! ## The amount of a text -/

namespace AmountValue

open Amount

variable {text : String} {amount : Decimal} {numeral : Numeral}

/-- An amount is that of a numeral as it is written: zero if the numeral denotes zero, and its
number with its decimal places if not. -/
structure Keeps (value : AmountValue) (numeral : Numeral) : Prop where
  zero_iff : value = .zero ↔ numeral.number = 0
  known : numeral.number ≠ 0 → ∃ amount, value = .value amount
    ∧ amount.toRat = numeral.number ∧ amount.scale = numeral.places
  positive_iff : value.positive?.isSome = true ↔ 0 < numeral.number

/-- A decimal is never an amount that is not known. -/
theorem ofText?_eq_unknown_iff : ofText? text = some .unknown ↔ text = "" := by
  constructor
  · intro typed
    unfold ofText? at typed
    split at typed
    · next empty => exact String.isEmpty_iff.mp empty
    · split at typed
      · obtain ⟨amount, _, same⟩ := Option.map_eq_some_iff.mp typed
        unfold ofDecimal at same
        split at same <;> cases same
      · cases typed
  · rintro rfl
    rfl

/-- A text that does not match the pattern stands for no amount. -/
theorem ofText?_of_not_isNumeric (full : text ≠ "") (foreign : isNumeric text = false) :
    ofText? text = none := by
  have some_character : text.isEmpty = false :=
    Bool.eq_false_iff.mpr fun empty => full (String.isEmpty_iff.mp empty)
  rw [ofText?, some_character, foreign]
  rfl

/-- A text that spells a short numeral stands for its decimal. -/
theorem ofText?_of_numeral (spelled : text.toList = numeral.chars)
    (short : numeral.digits.length ≤ 28) :
    ofText? text = some (ofDecimal (numeral.toDecimal short)) := by
  have numeric : isNumeric text = true := isNumericChars_iff_numeral.mpr ⟨numeral, spelled⟩
  rw [ofText?_of_isNumeric numeric, Decimal.ofText?, spelled, Numeral.ofChars?_chars short,
    Option.map_some]

/-- An amount keeps a numeral if it has its number and its places. -/
theorem keeps_ofDecimal (number : amount.toRat = numeral.number)
    (places : amount.scale = numeral.places) : (ofDecimal amount).Keeps numeral := by
  unfold ofDecimal
  split
  · next zero =>
      have nothing : numeral.number = 0 := number ▸ Decimal.isZero_iff_toRat.mp zero
      refine ⟨iff_of_true rfl nothing, fun nonzero => absurd nothing nonzero, ?_⟩
      rw [nothing]
      exact iff_of_false nofun (lt_irrefl _)
  · next nonzero =>
      rw [Decimal.isZero_iff_toRat, number] at nonzero
      refine ⟨iff_of_false nofun nonzero, fun _ => ⟨amount, rfl, number, places⟩, ?_⟩
      rw [← number, ← Decimal.isPositive_iff_toRat, positive?]
      split
      · next positive => exact iff_of_true rfl positive
      · next negative => exact iff_of_false nofun negative

/-- **The amount field takes the numerals and no other text, and keeps them as they are typed.**
A text that is taken is a numeral in one way, and the broker takes those without a sign.  Only the
empty text is an amount that is not known, every other text that is no numeral is no amount, and a
numeral of at most 28 digits is an amount of its number with its decimal places. -/
theorem numerals_kept_exactly (text : String) :
    (isNumeric text = true ↔ ∃! numeral : Numeral, text.toList = numeral.chars)
      ∧ (isNonNegative text = true
          ↔ ∃ numeral : Numeral, text.toList = numeral.chars ∧ numeral.negative = false)
      ∧ (ofText? text = some .unknown ↔ text = "")
      ∧ (text ≠ "" → (∀ numeral : Numeral, text.toList ≠ numeral.chars) → ofText? text = none)
      ∧ ∀ numeral : Numeral, text.toList = numeral.chars → numeral.digits.length ≤ 28 →
          ∃ value, ofText? text = some value ∧ value.Keeps numeral := by
  refine ⟨?_, isUnsignedChars_iff_numeral, ofText?_eq_unknown_iff, ?_, ?_⟩
  · rw [isNumeric, isNumericChars_iff_numeral]
    constructor
    · rintro ⟨numeral, spelled⟩
      exact ⟨numeral, spelled, fun other same =>
        Numeral.chars_injective (same.symm.trans spelled)⟩
    · exact ExistsUnique.exists
  · intro full foreign
    refine ofText?_of_not_isNumeric full (Bool.eq_false_iff.mpr fun numeric => ?_)
    obtain ⟨numeral, spelled⟩ := isNumericChars_iff_numeral.mp numeric
    exact foreign numeral spelled
  · intro numeral spelled short
    exact ⟨_, ofText?_of_numeral spelled short,
      keeps_ofDecimal (Numeral.toRat_toDecimal short) rfl⟩

/-- Minus one half, written with two decimal places. -/
def minusHalf : Numeral where
  negative := true
  whole := ['0']
  fraction := some ['5', '0']
  whole_digits := isDigits_iff.mp (by decide)
  fraction_digits := fun _ same => Option.some.inj same ▸ isDigits_iff.mp (by decide)

/-- A number below zero is kept with its last zero.  A decimal is read from a text with an
underscore, an amount is not. -/
theorem numerals_kept_exactly_of_minus_half :
    ("-0.50".toList = minusHalf.chars ∧ minusHalf.digits.length ≤ 28
      ∧ ∃ value, ofText? "-0.50" = some value ∧ value.Keeps minusHalf)
      ∧ (Decimal.ofText? "1_0").isSome = true ∧ "1_0" ≠ ""
      ∧ (∀ numeral : Numeral, "1_0".toList ≠ numeral.chars) ∧ ofText? "1_0" = none := by
  have foreign : ∀ numeral : Numeral, "1_0".toList ≠ numeral.chars := by
    intro numeral spelled
    have numeric : isNumericChars "1_0".toList = true :=
      isNumericChars_iff_numeral.mpr ⟨numeral, spelled⟩
    exact absurd numeric (by decide)
  exact ⟨⟨rfl, by decide, (numerals_kept_exactly "-0.50").2.2.2.2 minusHalf rfl (by decide)⟩,
    by decide, by decide, foreign, (numerals_kept_exactly "1_0").2.2.2.1 (by decide) foreign⟩

end AmountValue

end WalletTopUp
