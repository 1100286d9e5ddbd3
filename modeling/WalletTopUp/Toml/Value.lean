/-!
# TOML values

The values of a TOML document.  Floats and times keep their spelling.
-/

namespace WalletTopUp

namespace Toml

/-- A value of a document. -/
inductive Value where
  | string (text : String)
  | integer (value : Int)
  | float (spelling : String)
  | boolean (value : Bool)
  | datetime (spelling : String)
  | array (items : List Value)
  | table (fields : List (String × Value))
deriving Inhabited, BEq

/-- A reader of one part of a text: what it read, and the rest. -/
abbrev Reader (α : Type) := List Char → Option (α × List Char)

/-- Whether `c` may stand between the parts of a line. -/
def isSpace (c : Char) : Bool := c == ' ' || c == '\t'

/-- The text behind its leading blanks. -/
def skipSpace (text : List Char) : List Char := text.dropWhile isSpace

/-- The text behind the end of a line. -/
def skipLineEnd? : List Char → Option (List Char)
  | '\n' :: rest => some rest
  | '\r' :: '\n' :: rest => some rest
  | _ => none

/-- Whether a character may stand in a comment or between quotes. -/
def isPrintable (c : Char) : Bool := c == '\t' || (0x20 ≤ c.toNat && c.toNat != 0x7f)

/-- The text behind a comment, if there is one. -/
def skipComment (text : List Char) : List Char :=
  match text with
  | '#' :: rest => rest.dropWhile isPrintable
  | _ => text

/-- The text behind the rest of a line: blanks, a comment, and the end of the line or of the text.
-/
def skipTrailing? (text : List Char) : Option (List Char) :=
  match skipComment (skipSpace text) with
  | [] => some []
  | rest => skipLineEnd? rest

/-- The text behind blanks, comments and ends of lines.  The first argument bounds their number. -/
def skipFiller : Nat → List Char → List Char
  | 0, text => text
  | more + 1, text =>
    let rest := skipComment (skipSpace text)
    match skipLineEnd? rest with
    | none => rest
    | some behind => skipFiller more behind

end Toml

end WalletTopUp
