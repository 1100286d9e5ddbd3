import WalletTopUp.Toml.Quoted
import WalletTopUp.Toml.Scalar
import WalletTopUp.Toml.Table

/-!
# Reading TOML

Documents of TOML 1.0.
-/

namespace WalletTopUp

namespace Toml

/-! ## Values -/

/-- Read the items of an array behind its bracket.  The second argument bounds their number. -/
def readItems (value : Reader Value) : Nat → Reader (List Value)
  | 0, _ => none
  | more + 1, text =>
    match skipFiller text.length text with
    | ']' :: rest => some ([], rest)
    | text => do
      let (first, rest) ← value text
      match skipFiller rest.length rest with
      | ']' :: rest => return ([first], rest)
      | ',' :: rest =>
        let (others, rest) ← readItems value more rest
        return (first :: others, rest)
      | _ => none

/-- Read a path of keys, an equals sign and a value. -/
def readField (value : Reader Value) : Reader (List String × Value) := fun text => do
  let (path, rest) ← readPath pathLimit text
  match skipSpace rest with
  | '=' :: rest =>
    let (value, rest) ← value (skipSpace rest)
    return ((path, value), rest)
  | _ => none

/-- Read the fields of a table in braces.  They stand on one line, without a comma at the end. -/
def readFields (value : Reader Value) : Nat → Table → Reader Table
  | 0, _, _ => none
  | more + 1, table, text => do
    let ((path, field), rest) ← readField value (skipSpace text)
    let table ← table.insert path field
    match skipSpace rest with
    | '\x7d' :: rest => return (table, rest)
    | ',' :: rest => readFields value more table rest
    | _ => none

/-- Read a value with less than this many arrays and tables inside one another. -/
def readValue : Nat → Reader Value
  | depth, text =>
    match text with
    | [] => none
    | '"' :: _ => (readText text).map fun (content, rest) => (.string content, rest)
    | '\'' :: _ => (readText text).map fun (content, rest) => (.string content, rest)
    | '[' :: rest =>
      match depth with
      | 0 => none
      | inner + 1 =>
        (readItems (readValue inner) (text.length + 1) rest).map fun (items, rest) =>
          (.array items, rest)
    | '\x7b' :: rest =>
      match depth with
      | 0 => none
      | inner + 1 =>
        match skipSpace rest with
        | '\x7d' :: rest => some (.table [], rest)
        | rest =>
          (readFields (readValue inner) (text.length + 1) (Table.empty .header) rest).map
            fun (table, rest) => (.table (finishFields table.2), rest)
    | 't' :: 'r' :: 'u' :: 'e' :: rest => some (.boolean true, rest)
    | 'f' :: 'a' :: 'l' :: 's' :: 'e' :: rest => some (.boolean false, rest)
    | text => readNumber text

/-- How many arrays and tables may stand inside one another. -/
def depthLimit : Nat := 79

/-! ## Lines -/

/-- A document as far as it has been read. -/
structure Draft where
  root : Table := Table.empty .header
  /-- The path of the table that new fields belong to. -/
  current : List String := []

/-- Read a header behind its opening brackets and go on in its table. -/
def readHeader (isArray : Bool) (draft : Draft) (text : List Char) :
    Option (Draft × List Char) := do
  let (path, rest) ← readPath pathLimit text
  let rest ← match isArray, rest with
    | true, ']' :: ']' :: rest => some rest
    | false, ']' :: rest => some rest
    | _, _ => none
  let root ← if isArray then draft.root.append? path else draft.root.open? path
  return (⟨root, path⟩, ← skipTrailing? rest)

/-- Read a field and put it into the current table. -/
def readLine (draft : Draft) (text : List Char) : Option (Draft × List Char) := do
  let ((path, value), rest) ← readField (readValue depthLimit) text
  let root ← Table.change false (Table.insert path value) draft.current draft.root
  return ({ draft with root }, ← skipTrailing? rest)

/-- Read all lines.  The first argument bounds their number. -/
def readDocument : Nat → Draft → List Char → Option Draft
  | 0, _, _ => none
  | more + 1, draft, text =>
    match skipFiller text.length text with
    | [] => some draft
    | '[' :: '[' :: rest =>
      (readHeader true draft rest).bind fun (draft, rest) => readDocument more draft rest
    | '[' :: rest =>
      (readHeader false draft rest).bind fun (draft, rest) => readDocument more draft rest
    | rest => (readLine draft rest).bind fun (draft, rest) => readDocument more draft rest

/-- The fields of a document.  A byte order mark in front does not count. -/
def parse? (text : String) : Option (List (String × Value)) :=
  let text := match text.toList with
    | '\ufeff' :: rest => rest
    | text => text
  (readDocument (text.length + 1) {} text).map fun draft => finishFields draft.root.2

end Toml

end WalletTopUp
