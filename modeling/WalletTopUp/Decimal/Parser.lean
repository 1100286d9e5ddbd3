import WalletTopUp.Decimal.Basic

/-!
# Reading decimals

The text of a decimal is an optional sign, digits with at most one point, and underscores anywhere
after the first digit.  A fraction may have more digits than a decimal can hold: the first digit
that does not fit decides the rounding, and what follows only has to look like digits.  A text that
is no plain decimal may still have a power of ten behind an `e`.
-/

namespace WalletTopUp

namespace Decimal

/-- The value of an ASCII digit. -/
def digitValue? (c : Char) : Option Nat :=
  if c.isDigit then some (c.toNat - '0'.toNat) else none

/-- Whether `c` may stand among the digits that a rounded fraction leaves out. -/
def isDropped (c : Char) : Bool := c.isDigit || c == '_'

/-- Round `mantissa / 10 ^ scale` up by one unit if the first digit left out asks for it.  A
mantissa that this makes too large gives up its last place. -/
def roundAt (firstDropped mantissa scale : Nat) : Option (Nat × Nat) :=
  if firstDropped < 5 then some (mantissa, scale)
  else if mantissa + 1 < mantissaLimit then some (mantissa + 1, scale)
  else match scale with
    | 0 => none
    | places + 1 => some ((mantissa + 1 + 4) / 10, places)

/-- End the reading at the first character that does not fit any more. -/
def finishAt (firstDropped mantissa scale : Nat) (rest : List Char) : Option (Nat × Nat) :=
  if rest.all isDropped then roundAt firstDropped mantissa scale else none

/-- Read digits, the point and underscores behind what has been read so far: whether there was a
digit, whether there was the point, and the mantissa and scale of it. -/
def readMagnitude (digitSeen pointSeen : Bool) (mantissa scale : Nat) :
    List Char → Option (Nat × Nat)
  | [] => if digitSeen then some (mantissa, scale) else none
  | c :: rest =>
    if c == '.' then
      if pointSeen then none else readMagnitude digitSeen true mantissa scale rest
    else if c == '_' then
      if !digitSeen then none
      else if pointSeen && scale == maxScale then finishAt 0 mantissa scale rest
      else readMagnitude digitSeen pointSeen mantissa scale rest
    else match digitValue? c with
      | none => none
      | some digit =>
        let grown := mantissa * 10 + digit
        if pointSeen then
          if scale == maxScale || mantissaLimit ≤ grown then finishAt digit mantissa scale rest
          else readMagnitude true true grown (scale + 1) rest
        else if mantissaLimit ≤ grown then none
        else readMagnitude true false grown scale rest

/-- The sign of a number text and what follows it. -/
def takeSign : List Char → Bool × List Char
  | '-' :: rest => (true, rest)
  | '+' :: rest => (false, rest)
  | text => (false, text)

/-- Read a decimal without a power of ten. -/
def parsePlain? (text : List Char) : Option Decimal :=
  let (negative, body) := takeSign text
  match readMagnitude false false 0 0 body with
  | none => none
  | some (mantissa, scale) => ofParts? negative mantissa scale

/-- A natural number below `2 ^ 32`, written in digits with an optional plus. -/
def parseExponent? (text : List Char) : Option Nat :=
  let body := match text with
    | '+' :: rest => rest
    | other => other
  if body.isEmpty || !body.all Char.isDigit then none
  else
    let value := body.foldl (fun sum c => sum * 10 + (c.toNat - '0'.toNat)) 0
    if value < twoPow 32 then some value else none

/-- `mantissa` without its last `places` digits, rounded by the first of them. -/
def dropDigits (mantissa places : Nat) : Nat :=
  match places with
  | 0 => mantissa
  | kept + 1 =>
    mantissa / tenPow places + if 5 ≤ mantissa / tenPow kept % 10 then 1 else 0

/-- Divide by a power of ten.  Digits beyond the last possible place are rounded away. -/
def shiftRight? (value : Decimal) (exponent : Nat) : Option Decimal :=
  if maxScale < exponent then none
  else if maxScale < value.scale + exponent then
    ofParts? value.negative
      (dropDigits value.mantissa (value.scale + exponent - maxScale)) maxScale
  else ofParts? value.negative value.mantissa (value.scale + exponent)

/-- Multiply by a power of ten.  The result has no more decimal places than it needs. -/
def shiftLeft? (value : Decimal) (exponent : Nat) : Option Decimal :=
  if exponent ≤ value.scale then ofParts? value.negative value.mantissa (value.scale - exponent)
  else if maxScale < exponent then none
  else ofParts? value.negative (value.mantissa * tenPow (exponent - value.scale)) 0

/-- Whether `c` introduces a power of ten. -/
def isExponentMark (c : Char) : Bool := c == 'e' || c == 'E'

/-- Read a decimal with a power of ten. -/
def parseScientific? (text : List Char) : Option Decimal :=
  match text.dropWhile (fun c => !isExponentMark c) with
  | [] => none
  | _ :: exponentText =>
    match parsePlain? (text.takeWhile (fun c => !isExponentMark c)) with
    | none => none
    | some base =>
      match exponentText with
      | '-' :: digits => (parseExponent? digits).bind base.shiftRight?
      | digits => (parseExponent? digits).bind base.shiftLeft?

/-- Read a decimal. -/
def ofChars? (text : List Char) : Option Decimal :=
  match parsePlain? text with
  | some value => some value
  | none => parseScientific? text

/-- Read a decimal from its text. -/
def ofText? (text : String) : Option Decimal := ofChars? text.toList

end Decimal

end WalletTopUp
