import WalletTopUp.Json.Record
import WalletTopUp.Timing.Calendar

/-!
# Timestamps

A point of time with its date, time of day and offset from universal time, written as
`YYYY-MM-DD hh:mm:ss.f +hh:mm:ss`.  The fraction has at least one digit and no needless zeros.
-/

namespace WalletTopUp

/-- A date and time of day at an offset from universal time. -/
structure Timestamp where
  yearNegative : Bool := false
  year : Nat := 1970
  month : Nat := 1
  day : Nat := 1
  hour : Nat := 0
  minute : Nat := 0
  second : Nat := 0
  nanosecond : Nat := 0
  /-- Whether the offset is to the west. -/
  west : Bool := false
  offsetHour : Nat := 0
  offsetMinute : Nat := 0
  offsetSecond : Nat := 0
deriving DecidableEq, Inhabited

namespace Timestamp

/-- Whether all parts are within their ranges. -/
def isValid (stamp : Timestamp) : Bool :=
  Calendar.isDay stamp.year stamp.month stamp.day
    && stamp.hour < 24 && stamp.minute < 60 && stamp.second < 60
    && stamp.offsetHour ≤ 25 && stamp.offsetMinute < 60 && stamp.offsetSecond < 60

/-! ## Writing -/

/-- A number in decimal digits, padded with zeros. -/
def padded (width value : Nat) : List Char :=
  let digits := Nat.toDigits 10 value
  List.replicate (width - digits.length) '0' ++ digits

/-- The digits of a fraction of a second. -/
def fractionChars (nanosecond : Nat) : List Char :=
  match padded 9 nanosecond with
  | [] => ['0']
  | first :: rest => first :: (rest.reverse.dropWhile (· == '0')).reverse

/-- The text of a timestamp. -/
def toText (stamp : Timestamp) : String :=
  String.ofList (
    (if stamp.yearNegative then ['-'] else []) ++ padded 4 stamp.year ++ '-' ::
    padded 2 stamp.month ++ '-' :: padded 2 stamp.day ++ ' ' ::
    padded 2 stamp.hour ++ ':' :: padded 2 stamp.minute ++ ':' :: padded 2 stamp.second ++ '.' ::
    fractionChars stamp.nanosecond ++ ' ' :: (if stamp.west then '-' else '+') ::
    padded 2 stamp.offsetHour ++ ':' :: padded 2 stamp.offsetMinute ++ ':' ::
    padded 2 stamp.offsetSecond)

/-! ## Reading -/

/-- Read exactly this many digits onto a value. -/
def readFixed (value : Nat) : Nat → List Char → Option (Nat × List Char)
  | 0, text => some (value, text)
  | _ + 1, [] => none
  | width + 1, c :: rest =>
    if c.isDigit then readFixed (value * 10 + (c.toNat - '0'.toNat)) width rest else none

/-- Skip a character that has to be there. -/
def expect (c : Char) : List Char → Option (List Char)
  | d :: rest => if c == d then some rest else none
  | [] => none

/-- Read a sign that may be missing: whether it is a minus. -/
def readSign : List Char → Bool × List Char
  | '-' :: rest => (true, rest)
  | '+' :: rest => (false, rest)
  | text => (false, text)

/-- Read a fraction of a second; digits beyond the ninth do not count. -/
def readFraction (text : List Char) : Option (Nat × List Char) :=
  match text.takeWhile Char.isDigit with
  | [] => none
  | digits =>
    let nine := (digits ++ List.replicate 9 '0').take 9
    (readFixed 0 9 nine).map fun (value, _) => (value, text.dropWhile Char.isDigit)

/-- Read a timestamp. -/
def ofText? (text : String) : Option Timestamp := do
  let (yearNegative, rest) := readSign text.toList
  let (year, rest) ← readFixed 0 4 rest
  let (month, rest) ← readFixed 0 2 (← expect '-' rest)
  let (day, rest) ← readFixed 0 2 (← expect '-' rest)
  let (hour, rest) ← readFixed 0 2 (← expect ' ' rest)
  let (minute, rest) ← readFixed 0 2 (← expect ':' rest)
  let (second, rest) ← readFixed 0 2 (← expect ':' rest)
  let (nanosecond, rest) ← readFraction (← expect '.' rest)
  let rest ← expect ' ' rest
  let west ← match rest with
    | '-' :: _ => some true
    | '+' :: _ => some false
    | _ => none
  let (offsetHour, rest) ← readFixed 0 2 (rest.drop 1)
  let (offsetMinute, rest) ← readFixed 0 2 (← expect ':' rest)
  let (offsetSecond, rest) ← readFixed 0 2 (← expect ':' rest)
  let stamp : Timestamp := {
    yearNegative := yearNegative && year != 0
    year, month, day, hour, minute, second, nanosecond
    west := west && (offsetHour != 0 || offsetMinute != 0 || offsetSecond != 0)
    offsetHour, offsetMinute, offsetSecond }
  if rest.isEmpty && stamp.isValid then some stamp else none

end Timestamp

end WalletTopUp
