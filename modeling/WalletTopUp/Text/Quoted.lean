import WalletTopUp.Text.Printable

/-!
# Quoted text

The form in which a message shows a text that a user typed: between double quotes, with a
backslash before quotes and backslashes, short escapes for the common controls, and the code point
in braces for every other character that has no printed form of its own.
-/

namespace WalletTopUp

namespace Text

/-- The code point of a character between braces, in lower case hexadecimal without padding. -/
def codePointEscape (c : Char) : List Char :=
  ['\\', 'u', '\x7b'] ++ Nat.toDigits 16 c.toNat ++ ['\x7d']

/-- The quoted form of one character. -/
def quoteChar (c : Char) : List Char :=
  match c with
  | '"' => ['\\', '"']
  | '\\' => ['\\', '\\']
  | '\n' => ['\\', 'n']
  | '\r' => ['\\', 'r']
  | '\t' => ['\\', 't']
  | '\x00' => ['\\', '0']
  | c => if isPrintable c then [c] else codePointEscape c

/-- The quoted form of a text. -/
def quote (text : String) : String :=
  String.ofList ('"' :: text.toList.flatMap quoteChar ++ ['"'])

end Text

end WalletTopUp
