import WalletTopUp.Json.Parser
import WalletTopUp.Json.Printer

/-!
# Reading back strings and integers

Whatever characters a string holds, reading what is written for it gives the string
(`Json.readString_stringChars`).  An integer is written in its digits, and a reader that stands
before them reads the literal of this integer, up to the first character that cannot belong to a
number (`Json.readNumber_integerChars`).  The literal stands for the integer as long as it fits 64
bits (`Json.Literal.value?_ofInteger`).
-/

namespace WalletTopUp

namespace Json

/-! ## Strings -/

/-- The escape of a control character is read back; there are thirty-two to try. -/
theorem hexUnit?_of_control : ∀ unit < 0x20,
    hexUnit? '0' '0' (hexDigit (unit / 16)) (hexDigit unit) = some unit := by
  decide

/-- A character that needs no escape stands for itself. -/
theorem readUnits_of_plain {c : Char}
    (quote : c ≠ '"')
    (escape : c ≠ '\\')
    (plain : ¬ c.toNat < 0x20)
    (rest : List Char) :
    readUnits (c :: rest)
      = (readUnits rest).map fun (units, after) => (c.toNat :: units, after) := by
  rw [readUnits]
  · simp only [beq_eq_false_iff_ne.mpr escape, plain, decide_false, Bool.or_false,
      Bool.false_eq_true, if_false]
  all_goals simp_all

/-- A character is read back from what is written for it. -/
theorem readUnits_escapeChar (c : Char) (rest : List Char) :
    readUnits (escapeChar c ++ rest)
      = (readUnits rest).map fun (units, after) => (c.toNat :: units, after) := by
  unfold escapeChar
  split
  all_goals try rfl
  next quote escape _ _ _ _ _ =>
    split
    · next control =>
        have unit := hexUnit?_of_control c.toNat control
        simp only [List.cons_append, List.nil_append, readUnits, unit]
    · next plain => exact readUnits_of_plain quote escape plain rest

/-- An escaped text is read up to its closing quote, one unit for each character. -/
theorem readUnits_escaped (chars rest : List Char) :
    readUnits (chars.flatMap escapeChar ++ '"' :: rest) = some (chars.map Char.toNat, rest) := by
  induction chars with
  | nil => rfl
  | cons c chars ih =>
      rw [List.flatMap_cons, List.append_assoc, readUnits_escapeChar, ih, Option.map_some,
        List.map_cons]

/-- A character is never half of a surrogate pair. -/
theorem not_isHalf (c : Char) : isHighHalf c.toNat = false ∧ isLowHalf c.toNat = false := by
  have valid : c.toNat < 0xd800 ∨ 0xdfff < c.toNat ∧ c.toNat < 0x110000 := c.valid
  simp only [isHighHalf, isLowHalf, Bool.and_eq_false_iff, decide_eq_false_iff_not]
  omega

/-- The units of characters are joined to the same characters. -/
theorem joinUnits_toNat (chars : List Char) : joinUnits (chars.map Char.toNat) = some chars := by
  induction chars with
  | nil => rfl
  | cons c chars ih =>
      obtain ⟨high, low⟩ := not_isHalf c
      cases chars with
      | nil =>
          simp only [List.map_cons, List.map_nil, joinUnits, high, low, Bool.or_self,
            Bool.false_eq_true, if_false, Char.ofNat_toNat]
      | cons d chars =>
          rw [List.map_cons] at ih
          rw [List.map_cons, List.map_cons, joinUnits, ih]
          simp only [high, low, Bool.false_and, Bool.or_self, Bool.false_eq_true, if_false,
            Option.map_some, Char.ofNat_toNat]

/-- **A string is read back from what is written for it**, whatever characters it holds. -/
theorem readString_stringChars (text : String) (rest : List Char) :
    readString (text.toList.flatMap escapeChar ++ '"' :: rest) = some (some text, rest) := by
  simp only [readString, readUnits_escaped, joinUnits_toNat, Option.map_some, String.ofList_toList]

/-! ## Integers -/

/-- A text cannot go on with the number that ends before it. -/
def EndsNumber (rest : List Char) : Prop :=
  ∀ c ∈ rest.head?, c.isDigit = false ∧ c ≠ '.' ∧ c ≠ 'e' ∧ c ≠ 'E'

/-- The literal that an integer is written as. -/
def Literal.ofInteger (value : Int) : Literal :=
  { negative := decide (value < 0), whole := Nat.toDigits 10 value.natAbs }

/-- A number is written in digits. -/
theorem isDigit_of_mem_toDigits {n : Nat} : ∀ c ∈ Nat.toDigits 10 n, c.isDigit = true :=
  fun _ => Nat.isDigit_of_mem_toDigits (by decide) (by decide)

/-- Digits are read up to the end of the number. -/
theorem readDigits_append {digits rest : List Char}
    (allDigits : ∀ c ∈ digits, c.isDigit = true)
    (some_digit : digits ≠ [])
    (ends : EndsNumber rest) : readDigits (digits ++ rest) = some (digits, rest) := by
  have stop : rest.takeWhile Char.isDigit = [] ∧ rest.dropWhile Char.isDigit = rest := by
    cases rest with
    | nil => exact ⟨rfl, rfl⟩
    | cons c rest =>
        have noDigit := (ends c rfl).1
        simp only [List.takeWhile_cons, List.dropWhile_cons, noDigit, Bool.false_eq_true, if_false,
          and_self]
  rw [readDigits, List.takeWhile_append_of_pos allDigits, List.dropWhile_append_of_pos allDigits,
    stop.1, stop.2, List.append_nil]
  cases digits with
  | nil => exact (some_digit rfl).elim
  | cons c digits => rfl

/-- A number that is written with a zero in front is zero. -/
theorem eq_zero_of_head_toDigits {n : Nat} (zero : (Nat.toDigits 10 n).head? = some '0') :
    n = 0 := by
  induction n using Nat.strongRecOn with
  | ind n ih =>
      by_cases small : n < 10
      · rw [Nat.toDigits_of_lt_base small, List.head?_cons, Option.some.injEq,
          Nat.digitChar_eq_zero] at zero
        exact zero
      · have large : 10 ≤ n := Nat.not_lt.mp small
        rw [Nat.toDigits_of_base_le (by decide) large,
          List.head?_append, List.head?_eq_some_head Nat.toDigits_ne_nil, Option.some_or,
          ← List.head?_eq_some_head Nat.toDigits_ne_nil] at zero
        have none := ih (n / 10) (Nat.div_lt_self (by omega) (by decide)) zero
        omega

/-- A whole number is read up to its end. -/
theorem readWhole_toDigits (n : Nat) {rest : List Char} (ends : EndsNumber rest) :
    readWhole (Nat.toDigits 10 n ++ rest) = some (Nat.toDigits 10 n, rest) := by
  rw [readWhole, readDigits_append isDigit_of_mem_toDigits Nat.toDigits_ne_nil ends]
  split
  · next c digits _ same =>
      simp only [Option.some.injEq, Prod.mk.injEq] at same
      have zero := eq_zero_of_head_toDigits (n := n) (by rw [same.1]; rfl)
      rw [zero, Nat.toDigits_zero] at same
      cases same.1
  · rfl

/-- **An integer is read back as its literal.** -/
theorem readNumber_integerChars (value : Int) {rest : List Char} (ends : EndsNumber rest) :
    readNumber (integerChars value ++ rest) = some (Literal.ofInteger value, rest) := by
  have fraction : readFraction rest = some (none, rest) := by
    unfold readFraction
    split
    · next more => exact ((ends '.' rfl).2.1 rfl).elim
    · rfl
  have exponent : readExponent rest = some (none, rest) := by
    cases rest with
    | nil => rfl
    | cons c rest =>
        obtain ⟨_, _, small, large⟩ := ends c rfl
        simp only [readExponent, beq_eq_false_iff_ne.mpr small, beq_eq_false_iff_ne.mpr large,
          Bool.or_self, Bool.false_eq_true, if_false]
  have whole := readWhole_toDigits value.natAbs ends
  by_cases below : value < 0
  · have written : integerChars value = '-' :: Nat.toDigits 10 value.natAbs := if_pos below
    rw [written, List.cons_append]
    simp only [readNumber, whole, fraction, exponent, Option.bind_eq_bind, Option.bind_some,
      Literal.ofInteger, below, decide_true]
    rfl
  · have written : integerChars value = Nat.toDigits 10 value.natAbs := if_neg below
    obtain ⟨c, digits, first⟩ := List.exists_cons_of_ne_nil
      (Nat.toDigits_ne_nil (n := value.natAbs) (b := 10))
    have digit := isDigit_of_mem_toDigits c (first ▸ List.mem_cons_self)
    have unsigned : c ≠ '-' := fun minus => by simp [minus] at digit
    rw [first, List.cons_append] at whole
    rw [written, first, List.cons_append, readNumber]
    · simp only [whole, fraction, exponent, Option.bind_eq_bind, Option.bind_some,
        Literal.ofInteger, below, decide_false, first]
      rfl
    · exact fun _ same => unsigned (List.cons.inj same).1

namespace Literal

/-- Digits whose number fits the significand lose none of it. -/
theorem significand_of_fits {digits : List Char} {start : Nat}
    (fits : Nat.ofDigitChars 10 digits start < twoPow 64) :
    significand start digits = (Nat.ofDigitChars 10 digits start, 0) := by
  induction digits generalizing start with
  | nil => rfl
  | cons c digits ih =>
      have grown : Nat.ofDigitChars 10 (c :: digits) start
          = Nat.ofDigitChars 10 digits (start * 10 + digit c) := by
        rw [Nat.ofDigitChars_cons, Nat.mul_comm, digit]
      have grows : start * 10 + digit c
          ≤ Nat.ofDigitChars 10 digits (start * 10 + digit c) := by
        rw [Nat.ofDigitChars_eq_ofDigitChars_zero]
        exact Nat.le_add_right_of_le (Nat.le_mul_of_pos_left _ (Nat.pow_pos (by decide)))
      rw [grown] at fits ⊢
      simp only [significand, Nat.lt_of_le_of_lt grows fits, if_true, ih fits]

/-- **The literal of an integer of 64 bits stands for this integer**, signed or unsigned. -/
theorem value?_ofInteger {value : Int} (low : -(twoPow 63 : Int) ≤ value)
    (high : value < twoPow 64) : (ofInteger value).value? = some (.integer value) := by
  have half : twoPow 64 = twoPow 63 * 2 := rfl
  have size : value.natAbs < twoPow 64 := by omega
  have whole : significand 0 (Nat.toDigits 10 value.natAbs) = (value.natAbs, 0) := by
    have digits := Nat.ofDigitChars_ten_toDigits (n := value.natAbs)
    rw [significand_of_fits (digits.symm ▸ size), digits]
  simp only [value?, ofInteger, whole, Option.isSome_none, bne_self_eq_false, Bool.or_self,
    Bool.false_eq_true, if_false]
  by_cases below : value < 0
  · have nonzero : (value.natAbs == 0) = false := beq_eq_false_iff_ne.mpr (by omega)
    have inRange : decide (twoPow 63 < value.natAbs) = false := decide_eq_false (by omega)
    have signed : -(value.natAbs : Int) = value := by omega
    simp only [below, decide_true, Bool.not_true, Bool.false_eq_true, if_false, nonzero, inRange,
      Bool.or_self, signed]
  · have unsigned : (value.natAbs : Int) = value := by omega
    simp only [below, decide_false, Bool.not_false, if_true, unsigned]

end Literal

end Json

end WalletTopUp
