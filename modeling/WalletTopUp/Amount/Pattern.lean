/-!
# The form of typed amounts

An amount is typed as ASCII digits, optionally followed by a point and more ASCII digits; the
amount field also takes a leading minus sign.  Nothing else is an amount: no plus sign, exponent,
blank, or missing digits on either side of the point.
-/

namespace WalletTopUp

namespace Amount

/-- Whether the text is one or more ASCII digits. -/
def isDigits (text : List Char) : Bool :=
  !text.isEmpty && text.all Char.isDigit

/-- Whether the text is an amount without a sign. -/
def isUnsignedChars (text : List Char) : Bool :=
  match text.dropWhile Char.isDigit with
  | [] => isDigits text
  | '.' :: fraction => isDigits (text.takeWhile Char.isDigit) && isDigits fraction
  | _ => false

/-- Whether the text is an amount with an optional minus sign. -/
def isNumericChars : List Char → Bool
  | '-' :: rest => isUnsignedChars rest
  | text => isUnsignedChars text

/-- Whether the text is an amount with an optional minus sign. -/
def isNumeric (text : String) : Bool := isNumericChars text.toList

/-- Whether the text is an amount without a sign, as the broker takes it. -/
def isNonNegative (text : String) : Bool := isUnsignedChars text.toList

end Amount

end WalletTopUp
