import WalletTopUp.Json.Tree

/-!
# Reading JSON

A strict reader: no trailing commas, no comments, no byte order mark, and nothing but blanks behind
the value.
-/

namespace WalletTopUp

namespace Json

/-- Whether `c` may stand between the parts of a JSON text. -/
def isSpace (c : Char) : Bool := c == ' ' || c == '\n' || c == '\r' || c == '\t'

/-- The text behind its leading blanks. -/
def skipSpace (text : List Char) : List Char := text.dropWhile isSpace

/-- The text behind `word`, if it starts with it. -/
def skipWord? : List Char → List Char → Option (List Char)
  | [], text => some text
  | c :: word, d :: text => if c == d then skipWord? word text else none
  | _ :: _, [] => none

/-! ## Strings -/

/-- The value of a hexadecimal digit. -/
def hexValue? (c : Char) : Option Nat :=
  if c.isDigit then some (c.toNat - 0x30)
  else if 'a' ≤ c ∧ c ≤ 'f' then some (c.toNat - 0x61 + 10)
  else if 'A' ≤ c ∧ c ≤ 'F' then some (c.toNat - 0x41 + 10)
  else none

/-- The value of four hexadecimal digits. -/
def hexUnit? (a b c d : Char) : Option Nat :=
  match hexValue? a, hexValue? b, hexValue? c, hexValue? d with
  | some a, some b, some c, some d => some (((a * 16 + b) * 16 + c) * 16 + d)
  | _, _, _, _ => none

/-- The character that a one letter escape stands for. -/
def shortEscape? (c : Char) : Option Char :=
  match c with
  | '"' => some '"'
  | '\\' => some '\\'
  | '/' => some '/'
  | 'b' => some '\x08'
  | 'f' => some '\x0c'
  | 'n' => some '\n'
  | 'r' => some '\r'
  | 't' => some '\t'
  | _ => none

/-- Read the inside of a string up to its closing quote: code points, halves of surrogate pairs
among them, and the rest of the text. -/
def readUnits : List Char → Option (List Nat × List Char)
  | [] => none
  | '"' :: rest => some ([], rest)
  | '\\' :: 'u' :: a :: b :: c :: d :: rest =>
    match hexUnit? a b c d with
    | none => none
    | some unit => (readUnits rest).map fun (units, after) => (unit :: units, after)
  | '\\' :: c :: rest =>
    match shortEscape? c with
    | none => none
    | some escaped => (readUnits rest).map fun (units, after) => (escaped.toNat :: units, after)
  | c :: rest =>
    if c == '\\' || c.toNat < 0x20 then none
    else (readUnits rest).map fun (units, after) => (c.toNat :: units, after)

/-- Whether a unit is the first half of a surrogate pair. -/
def isHighHalf (unit : Nat) : Bool := 0xd800 ≤ unit && unit < 0xdc00

/-- Whether a unit is the second half of a surrogate pair. -/
def isLowHalf (unit : Nat) : Bool := 0xdc00 ≤ unit && unit < 0xe000

/-- The characters of a string's units, if every half of a surrogate pair has its other half. -/
def joinUnits : List Nat → Option (List Char)
  | [] => some []
  | high :: low :: rest =>
    if isHighHalf high && isLowHalf low then
      (joinUnits rest).map (Char.ofNat (0x10000 + (high - 0xd800) * 0x400 + (low - 0xdc00)) :: ·)
    else if isHighHalf high || isLowHalf high then none
    else (joinUnits (low :: rest)).map (Char.ofNat high :: ·)
  | [unit] => if isHighHalf unit || isLowHalf unit then none else some [Char.ofNat unit]

/-- Read a string behind its opening quote. -/
def readString (text : List Char) : Option (Option String × List Char) :=
  (readUnits text).map fun (units, rest) => ((joinUnits units).map String.ofList, rest)

/-! ## Numbers -/

/-- The digits at the start of the text, at least one of them. -/
def readDigits (text : List Char) : Option (List Char × List Char) :=
  match text.takeWhile Char.isDigit with
  | [] => none
  | digits => some (digits, text.dropWhile Char.isDigit)

/-- The digits before the point: a zero stands alone. -/
def readWhole (text : List Char) : Option (List Char × List Char) :=
  match readDigits text with
  | some ('0' :: _ :: _, _) => none
  | other => other

/-- The digits behind the point, if there is a point. -/
def readFraction (text : List Char) : Option (Option (List Char) × List Char) :=
  match text with
  | '.' :: rest => (readDigits rest).map fun (digits, after) => (some digits, after)
  | _ => some (none, text)

/-- The power of ten, if there is one. -/
def readExponent (text : List Char) : Option (Option (Bool × List Char) × List Char) :=
  match text with
  | c :: rest =>
    if c == 'e' || c == 'E' then
      let (minus, digits) := match rest with
        | '-' :: more => (true, more)
        | '+' :: more => (false, more)
        | more => (false, more)
      (readDigits digits).map fun (read, after) => (some (minus, read), after)
    else some (none, text)
  | [] => some (none, [])

/-- Read a number literal. -/
def readNumber (text : List Char) : Option (Literal × List Char) := do
  let (negative, body) := match text with
    | '-' :: rest => (true, rest)
    | _ => (false, text)
  let (whole, rest) ← readWhole body
  let (fraction, rest) ← readFraction rest
  let (exponent, rest) ← readExponent rest
  return ({ negative, whole, fraction, exponent }, rest)

/-! ## Values -/

/-- A reader of one part of a text: what it read, and the rest. -/
abbrev Reader (α : Type) := List Char → Option (α × List Char)

/-- Read parts separated by commas up to the closing character, at least one part.  The first
argument bounds the number of parts. -/
def readParts (part : Reader α) (close : Char) : Nat → Reader (List α)
  | 0, _ => none
  | more + 1, text =>
    match part (skipSpace text) with
    | none => none
    | some (first, rest) =>
      match skipSpace rest with
      | [] => none
      | c :: after =>
        if c == close then some ([first], after)
        else if c == ',' then
          (readParts part close more after).map fun (others, left) => (first :: others, left)
        else none

/-- Read what stands between an opening and a closing bracket. -/
def readBracketed (part : Reader α) (close : Char) : Reader (List α) := fun text =>
  match skipSpace text with
  | [] => none
  | c :: after =>
    if c == close then some ([], after)
    else readParts part close (text.length + 1) (c :: after)

/-- Read a field of an object. -/
def readField (value : Reader Tree) : Reader (Option String × Tree)
  | '"' :: text =>
    match readString text with
    | none => none
    | some (key, rest) =>
      match skipSpace rest with
      | ':' :: after =>
        (value (skipSpace after)).map fun (tree, left) => ((key, tree), left)
      | _ => none
  | _ => none

/-- Read a value with at most this many arrays and objects inside one another. -/
def readValue : Nat → Reader Tree
  | depth, text =>
    match text with
    | [] => none
    | c :: rest =>
      if c == '"' then (readString rest).map fun (content, left) => (.string content, left)
      else if c == '[' then
        match depth with
        | 0 => none
        | inner + 1 =>
          (readBracketed (readValue inner) ']' rest).map fun (items, left) => (.array items, left)
      else if c == '\x7b' then
        match depth with
        | 0 => none
        | inner + 1 =>
          (readBracketed (readField (readValue inner)) '\x7d' rest).map
            fun (fields, left) => (.object fields, left)
      else if c == 'n' then
        (skipWord? ['u', 'l', 'l'] rest).map fun left => (.null, left)
      else if c == 't' then
        (skipWord? ['r', 'u', 'e'] rest).map fun left => (.bool true, left)
      else if c == 'f' then
        (skipWord? ['a', 'l', 's', 'e'] rest).map fun left => (.bool false, left)
      else (readNumber text).map fun (literal, left) => (.number literal, left)

/-- Read a whole JSON text.  A text of `n` characters nests less than `n` deep. -/
def parseChars? (text : List Char) : Option Tree :=
  match readValue text.length (skipSpace text) with
  | none => none
  | some (tree, rest) => if (skipSpace rest).isEmpty then some tree else none

/-- Read a whole JSON text. -/
def parse? (text : String) : Option Tree := parseChars? text.toList

/-- Read a JSON text as a value that stands for itself. -/
def parseValue? (text : String) : Option Value := (parse? text).bind (Tree.payload? maxDepth)

end Json

end WalletTopUp
