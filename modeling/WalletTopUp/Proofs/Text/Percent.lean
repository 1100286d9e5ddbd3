import WalletTopUp.Text.Percent

/-!
# Percent encoding round trip

Whatever is kept, the percent sign apart, a text that has been encoded is decoded to its own bytes
(`Text.percentDecode_percentEncode`), and no two texts have the same bytes (`Text.utf8_injective`).
A text of which every character is kept is its own encoding.
-/

namespace WalletTopUp

namespace Text

variable {keep : Char → Bool} {text : List Char}

/-! ## Bytes -/

/-- **Different texts have different bytes.** -/
theorem utf8_injective : Function.Injective utf8 := by
  intro first second same
  have bytes : (String.ofList first).toByteArray = (String.ofList second).toByteArray :=
    congrArg List.toByteArray same
  exact String.ofList_injective (String.toByteArray_inj.mp bytes)

/-- A character below 128 is one byte. -/
theorem utf8EncodeChar_of_ascii {c : Char} (ascii : c.toNat < 0x80) :
    String.utf8EncodeChar c = [UInt8.ofNat c.toNat] := by
  have small : c.val ≤ 127 := by
    rw [UInt32.le_iff_toNat_le]
    exact Nat.le_of_lt_succ ascii
  exact String.utf8EncodeChar_eq_singleton (Char.utf8Size_eq_one_iff.mpr small)

/-! ## Encoding and decoding -/

/-- A hexadecimal digit is read back. -/
theorem hexDigit?_upperHex {n : Nat} (digit : n < 16) : hexDigit? (upperHex n) = some n := by
  have all : ∀ n < 16, hexDigit? (upperHex n) = some n := by decide
  exact all n digit

/-- An encoded byte is decoded. -/
theorem percentDecode_percentByte (b : UInt8) (rest : List Char) :
    percentDecode (percentByte b ++ rest) = b :: percentDecode rest := by
  have high : b.toNat / 16 < 16 := by
    have := b.toNat_lt
    omega
  have low : b.toNat % 16 < 16 := Nat.mod_lt _ (by decide)
  have whole : b.toNat / 16 * 16 + b.toNat % 16 = b.toNat := Nat.div_add_mod' _ _
  simp only [percentByte, List.cons_append, List.nil_append, percentDecode,
    hexDigit?_upperHex high, hexDigit?_upperHex low, whole, UInt8.ofNat_toNat]

/-- A character other than the percent sign is decoded as itself. -/
theorem percentDecode_cons {c : Char} (plain : c ≠ '%') (rest : List Char) :
    percentDecode (c :: rest) = String.utf8EncodeChar c ++ percentDecode rest :=
  percentDecode.eq_3 c rest fun _ _ _ sign _ => plain sign

/-- An ASCII code is the code of its character. -/
theorem toNat_ofNat_of_ascii {n : Nat} (ascii : n < 0x80) : (Char.ofNat n).toNat = n := by
  have valid : n.isValidChar := .inl (by omega)
  rw [Char.ofNat, dif_pos valid]
  rfl

/-- A byte, encoded or kept, is decoded to itself. -/
theorem percentDecode_percentBytes_singleton (percent : keep '%' = false) (b : UInt8)
    (rest : List Char) :
    percentDecode (percentBytes keep [b] ++ rest) = b :: percentDecode rest := by
  simp only [percentBytes, List.flatMap_cons, List.flatMap_nil, List.append_nil]
  split
  · next kept =>
      rw [Bool.and_eq_true, decide_eq_true_eq, UInt8.lt_iff_toNat_lt] at kept
      have same := toNat_ofNat_of_ascii kept.1
      have plain : Char.ofNat b.toNat ≠ '%' := by
        intro sign
        rw [sign, percent] at kept
        cases kept.2
      have ascii : (Char.ofNat b.toNat).toNat < 0x80 := by
        rw [same]
        exact kept.1
      rw [List.singleton_append, percentDecode_cons plain, utf8EncodeChar_of_ascii ascii, same,
        UInt8.ofNat_toNat]
      rfl
  · exact percentDecode_percentByte b rest

/-- Encoded bytes are decoded, if the percent sign is encoded too. -/
theorem percentDecode_percentBytes (percent : keep '%' = false) (bytes : List UInt8) :
    percentDecode (percentBytes keep bytes) = bytes := by
  induction bytes with
  | nil => rfl
  | cons b bytes ih =>
      have parts : percentBytes keep (b :: bytes)
          = percentBytes keep [b] ++ percentBytes keep bytes := by
        simp only [percentBytes, List.flatMap_cons, List.flatMap_nil, List.append_nil]
      rw [parts, percentDecode_percentBytes_singleton percent, ih]

/-- **An encoded text is decoded to the bytes of the text.** -/
theorem percentDecode_percentEncode (percent : keep '%' = false) (text : List Char) :
    percentDecode (percentEncode keep text) = utf8 text :=
  percentDecode_percentBytes percent (utf8 text)

/-- An encoded part of an address is decoded into the bytes of its text. -/
theorem percentDecode_encodePart (text : String) :
    percentDecode (encodePart text) = utf8 text.toList :=
  percentDecode_percentEncode (by decide) text.toList

/-! ## What an encoded text looks like -/

/-- Characters are encoded one after another. -/
theorem percentEncode_cons (keep : Char → Bool) (c : Char) (text : List Char) :
    percentEncode keep (c :: text)
      = percentBytes keep (String.utf8EncodeChar c) ++ percentEncode keep text := by
  simp only [percentEncode, percentBytes, utf8, List.flatMap_cons, List.flatMap_append]

/-- A text of characters that are kept is its own encoding. -/
theorem percentEncode_eq_self (kept : ∀ c ∈ text, c.toNat < 0x80 ∧ keep c = true) :
    percentEncode keep text = text := by
  induction text with
  | nil => rfl
  | cons c text ih =>
      obtain ⟨⟨ascii, keeps⟩, others⟩ := List.forall_mem_cons.mp kept
      have byte : (UInt8.ofNat c.toNat).toNat = c.toNat :=
        UInt8.toNat_ofNat_of_lt' (Nat.lt_trans ascii (by decide))
      have small : UInt8.ofNat c.toNat < 0x80 := by
        rw [UInt8.lt_iff_toNat_lt, byte]
        exact ascii
      rw [percentEncode_cons, utf8EncodeChar_of_ascii ascii, ih others]
      simp only [percentBytes, List.flatMap_cons, List.flatMap_nil, byte, Char.ofNat_toNat, small,
        keeps, decide_true, Bool.and_self, if_true, List.append_nil, List.singleton_append]

/-- A character that stands for itself in every part of an address, or the percent sign. -/
def IsPart (c : Char) : Prop := isUnreserved c = true ∨ c = '%'

/-- Letters and digits are ASCII. -/
theorem ascii_of_isAlphanum {c : Char} (letter : c.isAlphanum = true) : c.toNat < 0x80 := by
  have below {high : UInt32} (top : high.toNat < 0x80) (most : c.val ≤ high) : c.toNat < 0x80 :=
    Nat.lt_of_le_of_lt (UInt32.le_iff_toNat_le.mp most) top
  rcases Bool.or_eq_true_iff.mp letter with alpha | digit
  · rcases Bool.or_eq_true_iff.mp alpha with upper | lower
    · have range : c.val ≥ 'A'.val ∧ c.val ≤ 'Z'.val := of_decide_eq_true upper
      exact below (by decide) range.2
    · have most : c.val ≤ 'z'.val := of_decide_eq_true (Bool.and_eq_true_iff.mp lower).2
      exact below (by decide) most
  · have most : c.val ≤ '9'.val := of_decide_eq_true (Bool.and_eq_true_iff.mp digit).2
    exact below (by decide) most

/-- What may stand in a part of an address is ASCII. -/
theorem IsPart.ascii {c : Char} (part : IsPart c) : c.toNat < 0x80 := by
  rcases part with plain | rfl
  · simp only [isUnreserved, Bool.or_eq_true, beq_iff_eq] at plain
    rcases plain with (((letter | rfl) | rfl) | rfl) | rfl
    · exact ascii_of_isAlphanum letter
    all_goals decide
  · decide

/-- A hexadecimal digit may stand in a part of an address. -/
theorem isPart_upperHex {n : Nat} (digit : n < 16) : IsPart (upperHex n) := by
  have all : ∀ n < 16, isUnreserved (upperHex n) = true := by decide
  exact .inl (all n digit)

/-- An encoded part of an address has no other characters. -/
theorem isPart_of_mem_encodePart {text : String} : ∀ c ∈ encodePart text, IsPart c := by
  intro c member
  obtain ⟨b, _, written⟩ := List.mem_flatMap.mp member
  simp only at written
  split at written
  · next kept =>
      rw [List.mem_singleton.mp written]
      exact .inl (Bool.and_eq_true_iff.mp kept).2
  · have high : b.toNat / 16 < 16 := by
      have := b.toNat_lt
      omega
    rw [percentByte, List.mem_cons, List.mem_cons, List.mem_singleton] at written
    rcases written with rfl | rfl | rfl
    · exact .inr rfl
    · exact isPart_upperHex high
    · exact isPart_upperHex (Nat.mod_lt _ (by decide))

end Text

end WalletTopUp
