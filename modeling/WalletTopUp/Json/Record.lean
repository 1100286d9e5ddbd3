import WalletTopUp.Decimal.Parser
import WalletTopUp.Decimal.Printer
import WalletTopUp.Json.Parser
import WalletTopUp.Json.Printer

/-!
# Records in JSON

How a type with named fields is read from JSON.  A record is an object, in which unknown fields are
ignored and a known field may stand only once, or the array of its fields in order, in which only
fields that have a default may be left out at the end.
-/

namespace WalletTopUp

namespace Json

/-- A field of a record type. -/
structure FieldSpec where
  name : String
  /-- Whether the array form may leave the field out. -/
  hasDefault : Bool := false
deriving DecidableEq, Inhabited

/-- The fields found for a record, by name. -/
abbrev Record := List (String × Tree)

namespace Record

/-- The known fields of an object, `none` if one stands there twice or a key is no text. -/
def ofFields? (specs : List FieldSpec) : List (Option String × Tree) → Option Record
  | [] => some []
  | (none, _) :: _ => none
  | (some key, tree) :: rest =>
    match ofFields? specs rest with
    | none => none
    | some record =>
      if specs.any (fun spec => spec.name == key) then
        if record.any (fun field => field.1 == key) then none else some ((key, tree) :: record)
      else some record

/-- The fields of an array, `none` if it is too long or leaves out a field without a default. -/
def ofItems? : List FieldSpec → List Tree → Option Record
  | [], [] => some []
  | [], _ :: _ => none
  | spec :: specs, [] => if spec.hasDefault then ofItems? specs [] else none
  | spec :: specs, item :: items =>
    (ofItems? specs items).map fun record => (spec.name, item) :: record

/-- The fields of a record given in either form. -/
def ofTree? (specs : List FieldSpec) : Tree → Option Record
  | .object fields => ofFields? specs fields
  | .array items => ofItems? specs items
  | _ => none

/-- The field of this name. -/
def get? (record : Record) (name : String) : Option Tree :=
  List.lookup name record

/-- A field that has to be there. -/
def required (record : Record) (name : String) (read : Tree → Option α) : Option α :=
  (record.get? name).bind read

/-- A field that may be absent or null. -/
def optional (record : Record) (name : String) (read : Tree → Option α) : Option (Option α) :=
  match record.get? name with
  | none => some none
  | some .null => some none
  | some tree => (read tree).map some

/-- A field that stands for a fixed value where it is absent. -/
def orElse (record : Record) (name : String) (read : Tree → Option α) (absent : α) : Option α :=
  match record.get? name with
  | none => some absent
  | some tree => read tree

end Record

/-- Types with a JSON form. -/
class Wire (α : Type) where
  /-- The JSON value that stands for a value of the type. -/
  encode : α → Value
  /-- The value of the type that a JSON text stands for. -/
  decode? : Tree → Option α

export Wire (encode decode?)

/-- Read a value of the type from a JSON text. -/
def Wire.parse? [Wire α] (text : String) : Option α := (Json.parse? text).bind decode?

/-- The compact JSON text of a value of the type. -/
def Wire.render [Wire α] (value : α) : String := (encode value).render

/-- A text. -/
def Tree.text? : Tree → Option String
  | .string text => text
  | _ => none

/-- A value that stands for itself, as a field of a record. -/
def Tree.payloadField? : Tree → Option Value := Tree.payload? (maxDepth - 1)

/-- A truth value. -/
def Tree.flag? : Tree → Option Bool
  | .bool value => some value
  | _ => none

/-- An integer that fits 32 bits. -/
def Tree.int32? : Tree → Option Int32
  | .number literal =>
    match literal.value? with
    | some (.integer value) =>
      if -(twoPow 31 : Int) ≤ value ∧ value < twoPow 31 then some (Int32.ofInt value) else none
    | _ => none
  | _ => none

/-- The decimal of a JSON number: a double counts by its shortest digits. -/
def Number.decimal? : Number → Option Decimal
  | .integer value => Decimal.ofParts? (value < 0) value.natAbs 0
  | .double bits => Decimal.ofChars? (Double.positionalText bits)

/-- A decimal, written as a text or a number. -/
def Tree.decimal? : Tree → Option Decimal
  | .string text => text.bind Decimal.ofText?
  | .number literal => literal.value?.bind Number.decimal?
  | _ => none

/-- The name of an alternative: a text, or an object whose only field has that name and is null. -/
def Tree.alternative? : Tree → Option String
  | .string text => text
  | .object [(some name, .null)] => some name
  | _ => none

/-- A decimal, written as a text. -/
def decimal (value : Decimal) : Value := .string value.toText

/-! ## Lists -/

/-- Read every item of a list. -/
def readAll? [Wire α] : List Tree → Option (List α)
  | [] => some []
  | tree :: rest =>
    match decode? tree, readAll? rest with
    | some first, some others => some (first :: others)
    | _, _ => none

instance instWireList [Wire α] : Wire (List α) where
  encode items := .array (items.map encode)
  decode?
    | .array items => readAll? items
    | _ => none

end Json

end WalletTopUp
