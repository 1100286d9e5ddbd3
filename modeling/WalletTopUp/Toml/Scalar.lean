import WalletTopUp.Json.Number
import WalletTopUp.Text.Percent
import WalletTopUp.Timing.Calendar
import WalletTopUp.Toml.Value

/-!
# Numbers and times in TOML

Integers of 64 bits in four bases, floats, and dates and times of day.
-/

namespace WalletTopUp

namespace Toml

/-! ## Digits -/

/-- Read digits, between which single underscores may stand. -/
def readDigits (isDigit : Char → Bool) : Reader (List Char)
  | [] => none
  | c :: '_' :: rest =>
    if isDigit c then
      (readDigits isDigit rest).map fun (digits, left) => (c :: digits, left)
    else none
  | c :: rest =>
    if isDigit c then
      match readDigits isDigit rest with
      | none => some ([c], rest)
      | some (digits, left) => some (c :: digits, left)
    else none

/-- Read a sign that may be missing: whether it is a minus. -/
def readSign : List Char → Bool × List Char
  | '-' :: rest => (true, rest)
  | '+' :: rest => (false, rest)
  | text => (false, text)

/-- Read the digits of a decimal integer: a zero, or digits that do not begin with one. -/
def readWhole : Reader (List Char)
  | '0' :: rest => some (['0'], rest)
  | text => readDigits Char.isDigit text

/-! ## Integers -/

/-- The value of digits of a base. -/
def digitsValue (base : Nat) (digits : List Char) : Nat :=
  digits.foldl (fun value c => value * base + (Text.hexDigit? c).getD 0) 0

/-- Whether an integer fits 64 bits. -/
def fits (value : Int) : Bool := -(twoPow 63 : Int) ≤ value && value < twoPow 63

/-- Read digits of a base other than ten. -/
def readBased (base : Nat) (text : List Char) : Option (Int × List Char) :=
  let isDigit (c : Char) : Bool := (Text.hexDigit? c).any (· < base)
  (readDigits isDigit text).map fun (digits, rest) => ((digitsValue base digits : Int), rest)

/-- Read an integer. -/
def readInteger (text : List Char) : Option (Value × List Char) := do
  let (value, rest) ← match text with
    | '0' :: 'x' :: rest => readBased 16 rest
    | '0' :: 'o' :: rest => readBased 8 rest
    | '0' :: 'b' :: rest => readBased 2 rest
    | text =>
      let (negative, body) := readSign text
      (readWhole body).map fun (digits, rest) =>
        let value : Int := digitsValue 10 digits
        (if negative then -value else value, rest)
  if fits value then some (.integer value, rest) else none

/-! ## Floats -/

/-- Read the power of ten of a float. -/
def readPower (text : List Char) : Option ((Bool × List Char) × List Char) :=
  match text with
  | c :: rest =>
    if c == 'e' || c == 'E' then
      let (negative, rest) := readSign rest
      (readDigits Char.isDigit rest).map fun (digits, rest) => ((negative, digits), rest)
    else none
  | [] => none

/-- Whether a literal is not beyond the largest double.  Below the least one anything goes. -/
def isFloat (literal : Json.Literal) : Bool := literal.value?.isSome || literal.negative

/-- Read a float with a fraction, a power of ten, or both. -/
def readFloat (text : List Char) : Option (Value × List Char) := do
  let (negative, body) := readSign text
  let (whole, rest) ← readWhole body
  let (fraction, rest) ← match rest with
    | '.' :: rest => (readDigits Char.isDigit rest).map fun (digits, rest) => (some digits, rest)
    | rest => some (none, rest)
  let (exponent, rest) ← match rest with
    | 'e' :: _ => (readPower rest).map fun (power, rest) => (some power, rest)
    | 'E' :: _ => (readPower rest).map fun (power, rest) => (some power, rest)
    | rest => some (none, rest)
  let spelling := String.ofList (text.take (text.length - rest.length))
  if (fraction.isSome || exponent.isSome) && isFloat { negative, whole, fraction, exponent } then
    some (.float spelling, rest)
  else none

/-- Read infinity or what is no number. -/
def readSpecial (text : List Char) : Option (Value × List Char) :=
  let (negative, body) := readSign text
  let mark := if negative then "-" else ""
  match body with
  | 'i' :: 'n' :: 'f' :: rest => some (.float (mark ++ "inf"), rest)
  | 'n' :: 'a' :: 'n' :: rest => some (.float (mark ++ "nan"), rest)
  | _ => none

/-! ## Times -/

/-- Read exactly this many digits. -/
def readFixed (width : Nat) (text : List Char) : Option (Nat × List Char) :=
  let digits := text.take width
  if digits.length = width ∧ digits.all Char.isDigit then
    some (digitsValue 10 digits, text.drop width)
  else none

/-- Skip a character that has to be there. -/
def skipChar? (c : Char) : List Char → Option (List Char)
  | d :: rest => if c = d then some rest else none
  | [] => none

/-- The text behind a date. -/
def skipDate? (text : List Char) : Option (List Char) := do
  let (year, rest) ← readFixed 4 text
  let (month, rest) ← readFixed 2 (← skipChar? '-' rest)
  let (day, rest) ← readFixed 2 (← skipChar? '-' rest)
  if Calendar.isDay year month day then some rest else none

/-- The text behind a time of day.  A minute may have a leap second. -/
def skipTime? (text : List Char) : Option (List Char) := do
  let (hour, rest) ← readFixed 2 text
  let (minute, rest) ← readFixed 2 (← skipChar? ':' rest)
  let (second, rest) ← readFixed 2 (← skipChar? ':' rest)
  let rest ← match rest with
    | '.' :: c :: behind => if c.isDigit then some (behind.dropWhile Char.isDigit) else none
    | ['.'] => none
    | rest => some rest
  if hour < 24 ∧ minute < 60 ∧ second ≤ 60 then some rest else none

/-- The text behind an offset from universal time, if there is one. -/
def skipOffset (text : List Char) : List Char :=
  match text with
  | c :: rest =>
    if c == 'Z' || c == 'z' then rest
    else if c == '+' || c == '-' then
      let offset? := do
        let (hour, rest) ← readFixed 2 rest
        let (minute, rest) ← readFixed 2 (← skipChar? ':' rest)
        if hour < 24 ∧ minute < 60 then some rest else none
      offset?.getD text
    else text
  | [] => []

/-- Read a date, a time of day, or both. -/
def readTime (text : List Char) : Option (Value × List Char) :=
  let rest? := match skipDate? text with
    | none => skipTime? text
    | some rest =>
      match rest with
      | c :: behind =>
        if c == 'T' || c == 't' || c == ' ' then
          some (((skipTime? behind).map skipOffset).getD rest)
        else some rest
      | [] => some []
  rest?.map fun rest => (.datetime (String.ofList (text.take (text.length - rest.length))), rest)

/-- Read a number or a time. -/
def readNumber (text : List Char) : Option (Value × List Char) :=
  readTime text <|> readFloat text <|> readSpecial text <|> readInteger text

end Toml

end WalletTopUp
