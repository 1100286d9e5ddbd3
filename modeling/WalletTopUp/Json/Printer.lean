import WalletTopUp.Json.Value

/-!
# Writing JSON

A value is written in a layout that says where blanks stand.  No layout changes what the text says,
and no string has an escape where none is needed.
-/

namespace WalletTopUp

namespace Json

/-- A hexadecimal digit in lower case. -/
def hexDigit (n : Nat) : Char := Nat.digitChar (n % 16)

/-- How a character is written inside a string. -/
def escapeChar (c : Char) : List Char :=
  match c with
  | '"' => ['\\', '"']
  | '\\' => ['\\', '\\']
  | '\x08' => ['\\', 'b']
  | '\x0c' => ['\\', 'f']
  | '\n' => ['\\', 'n']
  | '\r' => ['\\', 'r']
  | '\t' => ['\\', 't']
  | c =>
    if c.toNat < 0x20 then ['\\', 'u', '0', '0', hexDigit (c.toNat / 16), hexDigit c.toNat]
    else [c]

/-- A string between its quotes. -/
def stringChars (text : String) : List Char :=
  '"' :: text.toList.flatMap escapeChar ++ ['"']

/-- A double with its shortest digits: positional as long as it has at most 16 places before the
point and four zeros behind it, with a power of ten otherwise. -/
def doubleChars (bits : UInt64) : List Char :=
  let magnitude := match Double.shortest? bits with
    | none => ['0', '.', '0']
    | some value =>
      let value := Double.trimZeros 20 value
      let digits := Nat.toDigits 10 value.digits
      let point : Int := digits.length + value.exponent
      if 0 ≤ value.exponent && point ≤ 16 then value.positional ++ ['.', '0']
      else if -5 < point && point ≤ 16 then value.positional
      else
        let mantissa := match digits with
          | first :: second :: rest => first :: '.' :: second :: rest
          | short => short
        let power := point - 1
        mantissa ++ 'e' :: (if power < 0 then '-' :: Nat.toDigits 10 power.natAbs
          else Nat.toDigits 10 power.natAbs)
  if Double.isNegative bits then '-' :: magnitude else magnitude

/-- An integer in decimal digits. -/
def integerChars (value : Int) : List Char :=
  if value < 0 then '-' :: Nat.toDigits 10 value.natAbs else Nat.toDigits 10 value.natAbs

/-- A number. -/
def Number.chars : Number → List Char
  | .integer value => integerChars value
  | .double bits => doubleChars bits

/-- Where blanks stand between the parts of a text. -/
structure Layout where
  /-- What goes before a part that stands inside this many brackets. -/
  newline : Nat → List Char
  /-- What goes behind the colon of a field. -/
  gap : List Char

/-- No blanks at all. -/
def Layout.compact : Layout := ⟨fun _ => [], []⟩

/-- Every part on a line of its own, indented by two blanks for each bracket around it. -/
def Layout.indented : Layout := ⟨fun depth => '\n' :: List.replicate (2 * depth) ' ', [' ']⟩

mutual

/-- The text of a value that stands inside `depth` brackets. -/
def Value.chars (layout : Layout) (depth : Nat) : Value → List Char
  | .null => ['n', 'u', 'l', 'l']
  | .bool true => ['t', 'r', 'u', 'e']
  | .bool false => ['f', 'a', 'l', 's', 'e']
  | .number value => value.chars
  | .string text => stringChars text
  | .array [] => ['[', ']']
  | .array (item :: rest) =>
    '[' :: layout.newline (depth + 1) ++ item.chars layout (depth + 1)
      ++ itemsChars layout depth rest
  | .object [] => ['\x7b', '\x7d']
  | .object ((key, value) :: rest) =>
    '\x7b' :: layout.newline (depth + 1) ++ stringChars key ++ ':' :: layout.gap
      ++ value.chars layout (depth + 1) ++ fieldsChars layout depth rest

/-- The items behind the first one and the closing bracket of an array inside `depth` brackets. -/
def itemsChars (layout : Layout) (depth : Nat) : List Value → List Char
  | [] => layout.newline depth ++ [']']
  | item :: rest =>
    ',' :: layout.newline (depth + 1) ++ item.chars layout (depth + 1)
      ++ itemsChars layout depth rest

/-- The fields behind the first one and the closing brace of an object inside `depth` brackets. -/
def fieldsChars (layout : Layout) (depth : Nat) : List (String × Value) → List Char
  | [] => layout.newline depth ++ ['\x7d']
  | (key, value) :: rest =>
    ',' :: layout.newline (depth + 1) ++ stringChars key ++ ':' :: layout.gap
      ++ value.chars layout (depth + 1) ++ fieldsChars layout depth rest

end

/-- The compact text of a value. -/
def Value.render (value : Value) : String := String.ofList (value.chars .compact 0)

/-- The text of a value with its parts on lines of their own. -/
def Value.pretty (value : Value) : String := String.ofList (value.chars .indented 0)

end Json

end WalletTopUp
