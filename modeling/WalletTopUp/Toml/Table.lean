import WalletTopUp.Toml.Value

/-!
# Tables under construction

The tables of a document grow line by line.  Each one remembers how it came to be, because that
decides what may still be added to it: a table has one header at most, and only a table that came to
be by keys with points may be added to by such keys.
-/

namespace WalletTopUp

namespace Toml

/-- How a table came to be. -/
inductive Origin where
  /-- By a header of its own, or by braces. -/
  | header
  /-- By the header of a table within it. -/
  | implied
  /-- By a key with points. -/
  | dotted
deriving DecidableEq, Inhabited

/-- What stands under a key. -/
inductive Node where
  | value (value : Value)
  | table (origin : Origin) (fields : List (String × Node))
  /-- Tables that share a header. -/
  | tables (items : List (Origin × List (String × Node)))
deriving Inhabited

/-- A table under construction. -/
abbrev Table : Type := Origin × List (String × Node)

namespace Table

/-- A table without fields. -/
def empty (origin : Origin) : Table := (origin, [])

/-- What stands under a key. -/
def get? (table : Table) (key : String) : Option Node := List.lookup key table.2

/-- Put something under a key, in place of what may be there. -/
def set (table : Table) (key : String) (node : Node) : Table :=
  (table.1, go table.2)
where
  /-- The fields with one of them changed, or with a new one at the end. -/
  go : List (String × Node) → List (String × Node)
    | [] => [(key, node)]
    | field :: rest => if field.1 = key then (key, node) :: rest else field :: go rest

/-- Change the table at the end of a path, `none` if there cannot be one.  A table that is missing
on the way comes to be; of tables that share a header the last one is meant. -/
def change (dotted : Bool) (f : Table → Option Table) : List String → Table → Option Table
  | [], table => f table
  | key :: path, table =>
    match table.get? key with
    | none =>
      (change dotted f path (empty (if dotted then .dotted else .implied))).map fun inner =>
        table.set key (.table inner.1 inner.2)
    | some (.value _) => none
    | some (.table origin fields) =>
      if dotted ∧ origin = .header then none
      else (change dotted f path (origin, fields)).map fun inner =>
        table.set key (.table inner.1 inner.2)
    | some (.tables items) =>
      match items.reverse with
      | [] => none
      | last :: before =>
        (change dotted f path last).map fun inner =>
          table.set key (.tables (inner :: before).reverse)

/-- Add a field under a key that is still free. -/
def add (isDotted : Bool) (key : String) (value : Value) (table : Table) : Option Table :=
  if (table.1 == .dotted) != isDotted || (table.get? key).isSome then none
  else some (table.set key (.value value))

/-- Add a field under a path of keys. -/
def insert (path : List String) (value : Value) (table : Table) : Option Table :=
  match path.reverse with
  | [] => none
  | key :: before =>
    change true (add (!before.isEmpty) key value) before.reverse table

/-- Begin a table by its header. -/
def open? (path : List String) (table : Table) : Option Table :=
  match path.reverse with
  | [] => none
  | key :: before =>
    change false (fun parent =>
      match parent.get? key with
      | none => some (parent.set key (.table .header []))
      | some (.table .implied fields) => some (parent.set key (.table .header fields))
      | _ => none) before.reverse table

/-- Begin another one of the tables that share a header. -/
def append? (path : List String) (table : Table) : Option Table :=
  match path.reverse with
  | [] => none
  | key :: before =>
    change false (fun parent =>
      match parent.get? key with
      | none => some (parent.set key (.tables [empty .header]))
      | some (.tables items) => some (parent.set key (.tables (items ++ [empty .header])))
      | _ => none) before.reverse table

end Table

mutual

/-- What a node stands for when the document is complete. -/
def Node.finish : Node → Value
  | .value value => value
  | .table _ fields => .table (finishFields fields)
  | .tables items => .array (finishTables items)

/-- Fields of a complete document. -/
def finishFields : List (String × Node) → List (String × Value)
  | [] => []
  | (key, node) :: rest => (key, node.finish) :: finishFields rest

/-- Tables of a complete document. -/
def finishTables : List (Origin × List (String × Node)) → List Value
  | [] => []
  | (_, fields) :: rest => .table (finishFields fields) :: finishTables rest

end

end Toml

end WalletTopUp
