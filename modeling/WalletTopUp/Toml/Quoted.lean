import WalletTopUp.Text.Percent
import WalletTopUp.Toml.Value

/-!
# Texts and keys in TOML

Texts stand between quotes of two kinds; three of them in a row let a text go over several lines.
Between the one kind a backslash begins an escape, between the other it stands for itself.
-/

namespace WalletTopUp

namespace Toml

/-! ## Escapes -/

/-- The character of a code point, if it is one. -/
def scalar? (code : Nat) : Option Char :=
  if code < 0xd800 ∨ (0xe000 ≤ code ∧ code < 0x110000) then some (Char.ofNat code) else none

/-- The value of hexadecimal digits. -/
def hexadecimal? (digits : List Char) : Option Nat :=
  digits.foldlM (fun value c => (Text.hexDigit? c).map fun digit => value * 16 + digit) 0

/-- Read what follows a backslash. -/
def readEscape : Reader Char
  | 'b' :: rest => some ('\x08', rest)
  | 't' :: rest => some ('\t', rest)
  | 'n' :: rest => some ('\n', rest)
  | 'f' :: rest => some ('\x0c', rest)
  | 'r' :: rest => some ('\r', rest)
  | '"' :: rest => some ('"', rest)
  | '\\' :: rest => some ('\\', rest)
  | 'u' :: rest => readCode 4 rest
  | 'U' :: rest => readCode 8 rest
  | _ => none
where
  /-- Read a code point of so many digits. -/
  readCode (width : Nat) (rest : List Char) : Option (Char × List Char) :=
    if rest.length < width then none
    else ((hexadecimal? (rest.take width)).bind scalar?).map fun c => (c, rest.drop width)

/-! ## Texts on one line -/

/-- Read a text with escapes up to its closing quote.  The first argument bounds its length. -/
def readBasic : Nat → Reader (List Char)
  | 0, _ => none
  | more + 1, text =>
    match text with
    | '"' :: rest => some ([], rest)
    | '\\' :: rest => do
      let (c, rest) ← readEscape rest
      let (others, rest) ← readBasic more rest
      return (c :: others, rest)
    | c :: rest =>
      if isPrintable c then (readBasic more rest).map fun (others, rest) => (c :: others, rest)
      else none
    | [] => none

/-- Read a text without escapes up to its closing quote. -/
def readLiteral : Reader (List Char)
  | '\'' :: rest => some ([], rest)
  | c :: rest =>
    if isPrintable c then (readLiteral rest).map fun (others, rest) => (c :: others, rest)
    else none
  | [] => none

/-! ## Texts on several lines -/

/-- The text behind blanks and at least one end of a line, `none` if something else comes first. -/
def skipContinuation? (text : List Char) : Option (List Char) :=
  (skipLineEnd? (skipSpace text)).map fun rest =>
    rest.dropWhile fun c => isSpace c || c == '\n'

/-- Like `skipContinuation?`, over line ends of both kinds. -/
def skipContinuations? (text : List Char) : Option (List Char) :=
  (skipContinuation? text).map fun rest => more rest.length rest
where
  /-- Go on as long as there are line ends. -/
  more : Nat → List Char → List Char
    | 0, rest => rest
    | limit + 1, rest =>
      match skipContinuation? rest with
      | none => skipSpace rest
      | some behind => more limit behind

/-- Read a text on several lines up to three closing quotes.  One or two quotes stand for
themselves, also right before the closing ones.  The second argument bounds its length. -/
def readLines (quote : Char) (escapes : Bool) : Nat → Reader (List Char)
  | 0, _ => none
  | more + 1, text =>
    match text with
    | [] => none
    | c :: rest =>
      if c = quote then
        let run := (text.takeWhile (· == quote)).length
        if 3 ≤ run then
          let kept := min (run - 3) 2
          some (List.replicate kept quote, text.drop (kept + 3))
        else
          (readLines quote escapes more (text.drop run)).map fun (others, rest) =>
            (List.replicate run quote ++ others, rest)
      else if c = '\\' ∧ escapes then
        match skipContinuations? rest with
        | some behind => readLines quote escapes more behind
        | none => do
          let (escaped, rest) ← readEscape rest
          let (others, rest) ← readLines quote escapes more rest
          return (escaped :: others, rest)
      else match skipLineEnd? text with
        | some behind =>
          (readLines quote escapes more behind).map fun (others, rest) => ('\n' :: others, rest)
        | none =>
          if isPrintable c then
            (readLines quote escapes more rest).map fun (others, rest) => (c :: others, rest)
          else none

/-- The text without the line end that it may begin with. -/
def dropLineEnd (text : List Char) : List Char := (skipLineEnd? text).getD text

/-- Read a text that begins with a quote. -/
def readText (text : List Char) : Option (String × List Char) :=
  let limit := text.length + 1
  let read := match text with
    | '"' :: '"' :: '"' :: rest => readLines '"' true limit (dropLineEnd rest)
    | '\'' :: '\'' :: '\'' :: rest => readLines '\'' false limit (dropLineEnd rest)
    | '"' :: rest => readBasic limit rest
    | '\'' :: rest => readLiteral rest
    | _ => none
  read.map fun (content, rest) => (String.ofList content, rest)

/-! ## Keys -/

/-- Whether a character may stand in a key without quotes. -/
def isKeyChar (c : Char) : Bool := c.isAlphanum || c == '_' || c == '-'

/-- Read a single key. -/
def readKey (text : List Char) : Option (String × List Char) :=
  match text with
  | '"' :: rest =>
    (readBasic (text.length + 1) rest).map fun (key, rest) => (String.ofList key, rest)
  | '\'' :: rest => (readLiteral rest).map fun (key, rest) => (String.ofList key, rest)
  | _ =>
    match text.takeWhile isKeyChar with
    | [] => none
    | key => some (String.ofList key, text.dropWhile isKeyChar)

/-- How many keys a path may have less one. -/
def pathLimit : Nat := 79

/-- Read keys with points between them.  The first argument bounds their number. -/
def readPath : Nat → Reader (List String)
  | 0, _ => none
  | more + 1, text => do
    let (key, rest) ← readKey (skipSpace text)
    match skipSpace rest with
    | '.' :: behind =>
      let (others, rest) ← readPath more behind
      return (key :: others, rest)
    | rest => return ([key], rest)

end Toml

end WalletTopUp
