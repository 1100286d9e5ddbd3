import WalletTopUp.Decimal.Parser
import WalletTopUp.Proofs.Decimal.Text

/-!
# Reading back the text of a decimal

The text of a decimal has as many digits behind the point as the scale says and no more digits than
the mantissa, so nothing is rounded when it is read: what is read is the same decimal, with the same
scale (`Decimal.ofText?_toText`).
-/

namespace WalletTopUp

namespace Decimal

variable {digits rest : List Char} {mantissa scale : Nat}

/-- A digit has the value its code says. -/
theorem digitValue?_of_isDigit {c : Char} (digit : c.isDigit = true) :
    digitValue? c = some (c.toNat - '0'.toNat) := if_pos digit

/-- A digit is none of the other marks of a numeral. -/
theorem ne_of_isDigit {c other : Char} (digit : c.isDigit = true)
    (unlike : other.isDigit = false) : (c == other) = false := by
  refine beq_eq_false_iff_ne.mpr fun same => ?_
  rw [same, unlike] at digit
  cases digit

/-- Digits only make a number larger. -/
theorem le_ofDigitChars (digits : List Char) (start : Nat) :
    start ≤ Nat.ofDigitChars 10 digits start := by
  rw [Nat.ofDigitChars_eq_ofDigitChars_zero]
  exact Nat.le_add_right_of_le (Nat.le_mul_of_pos_left _ (Nat.pow_pos (by decide)))

/-- The first digit is read onto what came before it. -/
theorem ofDigitChars_cons (c : Char) (digits : List Char) (start : Nat) :
    Nat.ofDigitChars 10 (c :: digits) start
      = Nat.ofDigitChars 10 digits (start * 10 + (c.toNat - '0'.toNat)) := by
  rw [Nat.ofDigitChars_cons, Nat.mul_comm]

/-- Digits before the point are read as they are, as long as the mantissa has room for them. -/
theorem readMagnitude_whole (seen : Bool) (allDigits : ∀ c ∈ digits, c.isDigit = true)
    (fits : Nat.ofDigitChars 10 digits mantissa < mantissaLimit) :
    readMagnitude seen false mantissa scale (digits ++ rest)
      = readMagnitude (seen || !digits.isEmpty) false (Nat.ofDigitChars 10 digits mantissa) scale
          rest := by
  induction digits generalizing seen mantissa with
  | nil => simp only [List.nil_append, List.isEmpty_nil, Bool.not_true, Bool.or_false,
      Nat.ofDigitChars_nil]
  | cons c digits ih =>
      obtain ⟨first, others⟩ := List.forall_mem_cons.mp allDigits
      rw [ofDigitChars_cons] at fits ⊢
      have grown := Nat.not_le.mpr (Nat.lt_of_le_of_lt (le_ofDigitChars digits _) fits)
      simp only [List.cons_append, readMagnitude, ne_of_isDigit first (by decide : '.'.isDigit = _),
        ne_of_isDigit first (by decide : '_'.isDigit = _), digitValue?_of_isDigit first, grown,
        Bool.false_eq_true, if_false, ih true others fits, Bool.true_or, List.isEmpty_cons,
        Bool.not_false, Bool.or_true]

/-- Digits behind the point each add a place, as long as there is one left. -/
theorem readMagnitude_fraction (allDigits : ∀ c ∈ digits, c.isDigit = true)
    (fits : Nat.ofDigitChars 10 digits mantissa < mantissaLimit)
    (places : scale + digits.length ≤ maxScale) :
    readMagnitude true true mantissa scale digits
      = some (Nat.ofDigitChars 10 digits mantissa, scale + digits.length) := by
  induction digits generalizing mantissa scale with
  | nil => rfl
  | cons c digits ih =>
      obtain ⟨first, others⟩ := List.forall_mem_cons.mp allDigits
      rw [ofDigitChars_cons] at fits ⊢
      have grown := Nat.not_le.mpr (Nat.lt_of_le_of_lt (le_ofDigitChars digits _) fits)
      rw [List.length_cons] at places ⊢
      have room : (scale == maxScale) = false := beq_eq_false_iff_ne.mpr (by omega)
      simp only [readMagnitude, ne_of_isDigit first (by decide : '.'.isDigit = _),
        ne_of_isDigit first (by decide : '_'.isDigit = _), digitValue?_of_isDigit first, grown,
        room, Bool.false_eq_true, if_false, if_true, Bool.false_or, decide_false,
        ih others fits (by omega : scale + 1 + digits.length ≤ maxScale)]
      rw [Nat.add_right_comm, Nat.add_assoc scale]

/-- Padded digits have one more than there are places. -/
theorem length_paddedDigits (mantissa scale : Nat) :
    scale < (paddedDigits mantissa scale).length := by
  simp only [paddedDigits, List.length_append, List.length_replicate]
  omega

/-- Padded digits write the mantissa. -/
theorem ofDigitChars_paddedDigits (mantissa scale : Nat) :
    Nat.ofDigitChars 10 (paddedDigits mantissa scale) 0 = mantissa := by
  rw [paddedDigits, Nat.ofDigitChars_append, Nat.ofDigitChars_replicate_zero, Nat.mul_zero,
    Nat.ofDigitChars_toDigits (by decide) (by decide)]

/-- A printed magnitude is read back with its mantissa and scale. -/
theorem readMagnitude_magnitudeText (fits : mantissa < mantissaLimit) (places : scale ≤ maxScale) :
    readMagnitude false false 0 0 (magnitudeText mantissa scale) = some (mantissa, scale) := by
  have allDigits : ∀ c ∈ paddedDigits mantissa scale, c.isDigit = true :=
    fun _ => isDigit_of_mem_paddedDigits
  have long := length_paddedDigits mantissa scale
  have value := ofDigitChars_paddedDigits mantissa scale
  generalize split : (paddedDigits mantissa scale).length - scale = count
  have parts := List.take_append_drop count (paddedDigits mantissa scale)
  have whole : ((paddedDigits mantissa scale).take count).isEmpty = false := by
    refine List.isEmpty_eq_false_iff.mpr (List.ne_nil_of_length_pos ?_)
    rw [List.length_take]
    omega
  have wholeDigits : ∀ c ∈ (paddedDigits mantissa scale).take count, c.isDigit = true :=
    fun c member => allDigits c (List.mem_of_mem_take member)
  rw [← parts, Nat.ofDigitChars_append] at value
  have wholeFits : Nat.ofDigitChars 10 ((paddedDigits mantissa scale).take count) 0
      < mantissaLimit :=
    Nat.lt_of_le_of_lt (le_ofDigitChars _ _) (value ▸ fits)
  cases scale with
  | zero =>
      have all : (paddedDigits mantissa 0).drop count = [] := by
        rw [List.drop_eq_nil_iff]
        omega
      rw [all] at value
      simp only [magnitudeText, split]
      rw [← List.append_nil (List.take _ _), readMagnitude_whole false wholeDigits wholeFits, whole]
      exact congrArg (fun mantissa => some (mantissa, 0)) value
  | succ inner =>
      have fractionDigits : ∀ c ∈ (paddedDigits mantissa (inner + 1)).drop count,
          c.isDigit = true := fun c member => allDigits c (List.mem_of_mem_drop member)
      have fraction : ((paddedDigits mantissa (inner + 1)).drop count).length = inner + 1 := by
        rw [List.length_drop]
        omega
      simp only [magnitudeText, split]
      rw [readMagnitude_whole false wholeDigits wholeFits, whole]
      have point := readMagnitude_fraction fractionDigits (value ▸ fits)
        (by rw [fraction, Nat.zero_add]; exact places)
      rw [value, fraction, Nat.zero_add] at point
      exact point

/-- A printed magnitude has no sign to take. -/
theorem takeSign_magnitudeText (mantissa scale : Nat) :
    takeSign (magnitudeText mantissa scale) = (false, magnitudeText mantissa scale) := by
  have digit : ∀ c rest, magnitudeText mantissa scale = c :: rest → c ≠ '-' ∧ c ≠ '+' := by
    intro c rest same
    rcases mem_magnitudeText (same ▸ List.mem_cons_self) with digit | rfl
    · exact ⟨fun minus => by simp [minus] at digit, fun plus => by simp [plus] at digit⟩
    · exact ⟨by decide, by decide⟩
  unfold takeSign
  split
  · next rest same => exact ((digit _ _ same).1 rfl).elim
  · next rest same => exact ((digit _ _ same).2 rfl).elim
  · rfl

/-- What is read behind a sign stands for the decimal of these parts. -/
theorem parsePlain?_of_readMagnitude {text body : List Char} {negative : Bool}
    (signed : takeSign text = (negative, body))
    (reads : readMagnitude false false 0 0 body = some (mantissa, scale))
    (fits : mantissa < twoPow 96) (places : scale ≤ 28) :
    parsePlain? text = some (ofParts negative mantissa scale fits places) := by
  simp only [parsePlain?, signed, reads, ofParts?]
  rw [dif_pos ⟨fits, places⟩]

/-- The characters of a decimal stand for this decimal. -/
theorem parsePlain?_toChars (value : Decimal) : parsePlain? value.toChars = some value := by
  have signed : takeSign value.toChars
      = (value.negative, magnitudeText value.mantissa value.scale) := by
    unfold toChars
    split
    · next negative => exact negative ▸ rfl
    · next negative =>
        rw [takeSign_magnitudeText, Bool.eq_false_iff.mpr negative]
  rw [parsePlain?_of_readMagnitude signed
    (readMagnitude_magnitudeText value.mantissa_lt value.scale_le) value.mantissa_lt value.scale_le,
    ofParts_self]

/-- **The text of a decimal stands for this decimal**, with the same scale. -/
theorem ofText?_toText (value : Decimal) : ofText? value.toText = some value := by
  rw [ofText?, toText, String.toList_ofList, ofChars?, parsePlain?_toChars]

end Decimal

end WalletTopUp
