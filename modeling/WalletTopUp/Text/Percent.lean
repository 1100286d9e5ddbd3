import WalletTopUp.Text.Utf8

/-!
# Percent encoding

Bytes that may not stand in an address are written as a percent sign and two hexadecimal digits.
-/

namespace WalletTopUp

namespace Text

/-- A hexadecimal digit, with capital letters. -/
def upperHex (n : Nat) : Char :=
  if n < 10 then Char.ofNat (0x30 + n) else Char.ofNat (0x41 + n - 10)

/-- The value of a hexadecimal digit. -/
def hexDigit? (c : Char) : Option Nat :=
  if c.isDigit then some (c.toNat - 0x30)
  else if 'a' ≤ c ∧ c ≤ 'f' then some (c.toNat - 0x61 + 10)
  else if 'A' ≤ c ∧ c ≤ 'F' then some (c.toNat - 0x41 + 10)
  else none

/-- A byte as a percent sign and two digits. -/
def percentByte (b : UInt8) : List Char :=
  ['%', upperHex (b.toNat / 16), upperHex (b.toNat % 16)]

/-- Write bytes, keeping those that satisfy `keep`. -/
def percentBytes (keep : Char → Bool) (bytes : List UInt8) : List Char :=
  bytes.flatMap fun b =>
    let c := Char.ofNat b.toNat
    if b < 0x80 && keep c then [c] else percentByte b

/-- Write a text, keeping the ASCII characters that satisfy `keep`. -/
def percentEncode (keep : Char → Bool) (text : List Char) : List Char :=
  percentBytes keep (utf8 text)

/-- The bytes of a text in which a percent sign and two digits stand for a byte. -/
def percentDecode : List Char → List UInt8
  | [] => []
  | '%' :: a :: b :: rest =>
    match hexDigit? a, hexDigit? b with
    | some high, some low => UInt8.ofNat (high * 16 + low) :: percentDecode rest
    | _, _ => 0x25 :: percentDecode (a :: b :: rest)
  | c :: rest => String.utf8EncodeChar c ++ percentDecode rest

/-- Whether a character stands for itself in every part of an address. -/
def isUnreserved (c : Char) : Bool :=
  c.isAlphanum || c == '-' || c == '_' || c == '.' || c == '~'

/-- A text as a single part of an address. -/
def encodePart (text : String) : List Char := percentEncode isUnreserved text.toList

/-! ## Forms -/

/-- Whether a character stands for itself in a form. -/
def isFormSafe (c : Char) : Bool :=
  c.isAlphanum || c == '*' || c == '-' || c == '.' || c == '_'

/-- A text in a form: a blank becomes a plus sign. -/
def formEncode (text : String) : List Char :=
  (utf8 text.toList).flatMap fun b =>
    if b = 0x20 then ['+'] else percentBytes isFormSafe [b]

/-- Named values as a form. -/
def formQuery (pairs : List (String × String)) : List Char :=
  [('&' : Char)].intercalate
    (pairs.map fun (name, value) => formEncode name ++ '=' :: formEncode value)

end Text

end WalletTopUp
