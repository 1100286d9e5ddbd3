import WalletTopUp.Decimal.Shortest

/-!
# JSON values

Numbers are exact integers as long as they fit a machine word and doubles otherwise.  A value that
stands for itself (a payload that is passed on unread) is kept in canonical form: every object has
its keys in increasing order and each key once.
-/

namespace WalletTopUp

namespace Json

/-- A number of a JSON value. -/
inductive Number where
  /-- An integer that fits 64 bits, signed or unsigned. -/
  | integer (value : Int)
  /-- Any other number, as the bits of a double. -/
  | double (bits : UInt64)
deriving DecidableEq, Inhabited

/-- A JSON value. -/
inductive Value where
  | null
  | bool (value : Bool)
  | number (value : Number)
  | string (text : String)
  | array (items : List Value)
  | object (fields : List (String × Value))
deriving Inhabited, BEq

namespace Value

/-- What may be absent, with null for nothing. -/
def optional (f : α → Value) : Option α → Value
  | none => null
  | some a => f a

/-- The value of the last field with this key. -/
def lookup? (key : String) : List (String × Value) → Option Value
  | [] => none
  | (name, value) :: rest =>
    match lookup? key rest with
    | some later => some later
    | none => if name == key then some value else none

end Value

/-- Put a field into an object whose keys increase.  A field of the same key is replaced. -/
def insertField (key : String) (value : Value) : List (String × Value) → List (String × Value)
  | [] => [(key, value)]
  | (name, old) :: rest =>
    if key < name then (key, value) :: (name, old) :: rest
    else if key == name then (key, value) :: rest
    else (name, old) :: insertField key value rest

/-- The fields in increasing order of their keys, the last one of each key. -/
def sortFields (fields : List (String × Value)) : List (String × Value) :=
  fields.foldl (fun sorted field => insertField field.1 field.2 sorted) []

/-- Whether the keys increase strictly. -/
def keysIncrease : List (String × Value) → Bool
  | [] => true
  | [_] => true
  | (first, _) :: (second, value) :: rest =>
    first < second && keysIncrease ((second, value) :: rest)

end Json

end WalletTopUp
