import WalletTopUp.Json.Number

/-!
# Parsed JSON

A JSON text before it is known what each part is for.  Literals and strings keep faults that only
count once they are read: a number beyond the range of a double, or a string with half of a
surrogate pair, may stand in a field that nobody reads.
-/

namespace WalletTopUp

namespace Json

/-- A parsed JSON text. -/
inductive Tree where
  | null
  | bool (value : Bool)
  | number (literal : Literal)
  /-- A string, `none` if it holds half of a surrogate pair. -/
  | string (text : Option String)
  | array (items : List Tree)
  | object (fields : List (Option String × Tree))
deriving Inhabited

namespace Tree

mutual

/-- The value that a tree stands for, in canonical form, if all of it is readable. -/
def value? : Tree → Option Value
  | null => some .null
  | bool value => some (.bool value)
  | number literal => literal.value?.map .number
  | string text => text.map .string
  | array items => (values? items).map .array
  | object fields => (fieldValues? fields).map fun read => .object (sortFields read)

/-- The values of the items. -/
def values? : List Tree → Option (List Value)
  | [] => some []
  | item :: rest =>
    match value? item, values? rest with
    | some first, some others => some (first :: others)
    | _, _ => none

/-- The values of the fields, in the order of the text. -/
def fieldValues? : List (Option String × Tree) → Option (List (String × Value))
  | [] => some []
  | (key, item) :: rest =>
    match key, value? item, fieldValues? rest with
    | some name, some first, some others => some ((name, first) :: others)
    | _, _, _ => none

end

mutual

/-- How many arrays and objects stand inside one another. -/
def depth : Tree → Nat
  | array items => itemsDepth items + 1
  | object fields => fieldsDepth fields + 1
  | _ => 0

/-- The depth of the deepest item. -/
def itemsDepth : List Tree → Nat
  | [] => 0
  | item :: rest => max item.depth (itemsDepth rest)

/-- The depth of the deepest field. -/
def fieldsDepth : List (Option String × Tree) → Nat
  | [] => 0
  | (_, item) :: rest => max item.depth (fieldsDepth rest)

end

/-- The value that a tree stands for, if it nests at most `limit` deep. -/
def payload? (limit : Nat) (tree : Tree) : Option Value :=
  if tree.depth ≤ limit then tree.value? else none

end Tree

/-- How deep the parts of a text that are read may nest.  What is skipped may nest deeper. -/
def maxDepth : Nat := 127

end Json

end WalletTopUp
