import WalletTopUp.Json.Record
import WalletTopUp.Proofs.Json.Scalars

/-!
# The tree of a JSON value

What is written for a value has a tree (`Json.Value.tree`).  As long as the numbers in a value are
integers of 64 bits and its objects have their keys in increasing order, its tree stands for the
value (`Json.Value.value?_tree`).
-/

namespace WalletTopUp

namespace Json

/-! ## Trees -/

/-- The literal that a number is written as. -/
def Number.literal : Number → Literal
  | .integer value => .ofInteger value
  | .double bits => (readNumber (doubleChars bits)).elim default Prod.fst

mutual

/-- The tree of what is written for a value. -/
def Value.tree : Value → Tree
  | .null => .null
  | .bool value => .bool value
  | .number value => .number value.literal
  | .string text => .string (some text)
  | .array items => .array (itemTrees items)
  | .object fields => .object (fieldTrees fields)

/-- The trees of the items. -/
def itemTrees : List Value → List Tree
  | [] => []
  | item :: rest => item.tree :: itemTrees rest

/-- The trees of the fields under their keys. -/
def fieldTrees : List (String × Value) → List (Option String × Tree)
  | [] => []
  | (key, value) :: rest => (some key, value.tree) :: fieldTrees rest

end

/-- The trees of items are those of each item. -/
theorem itemTrees_eq_map (items : List Value) : itemTrees items = items.map Value.tree := by
  induction items with
  | nil => rfl
  | cons item rest ih => rw [itemTrees, ih, List.map_cons]

/-- The trees of fields are those of each field, under its name. -/
theorem fieldTrees_eq_map (fields : List (String × Value)) :
    fieldTrees fields = fields.map fun field => (some field.1, field.2.tree) := by
  induction fields with
  | nil => rfl
  | cons field rest ih => rw [fieldTrees, ih, List.map_cons]

mutual

/-- Whether a value and every value inside it pass a test. -/
def Value.everywhere (test : Value → Bool) : Value → Bool
  | .array items => test (.array items) && itemsEverywhere test items
  | .object fields => test (.object fields) && fieldsEverywhere test fields
  | value => test value

/-- Whether the items and every value inside them pass a test. -/
def itemsEverywhere (test : Value → Bool) : List Value → Bool
  | [] => true
  | item :: rest => item.everywhere test && itemsEverywhere test rest

/-- Whether the values of the fields and every value inside them pass a test. -/
def fieldsEverywhere (test : Value → Bool) : List (String × Value) → Bool
  | [] => true
  | (_, value) :: rest => value.everywhere test && fieldsEverywhere test rest

end

/-- A test holds everywhere in items if it does in each. -/
theorem itemsEverywhere_iff {test : Value → Bool} {items : List Value} :
    itemsEverywhere test items = true ↔ ∀ item ∈ items, item.everywhere test = true := by
  induction items with
  | nil => simp [itemsEverywhere]
  | cons item rest ih => rw [itemsEverywhere, Bool.and_eq_true, ih, List.forall_mem_cons]

/-- A test holds everywhere in fields if it does in the value of each. -/
theorem fieldsEverywhere_iff {test : Value → Bool} {fields : List (String × Value)} :
    fieldsEverywhere test fields = true ↔ ∀ field ∈ fields, field.2.everywhere test = true := by
  induction fields with
  | nil => simp [fieldsEverywhere]
  | cons field rest ih => rw [fieldsEverywhere, Bool.and_eq_true, ih, List.forall_mem_cons]

/-- Whether a value is an integer of 64 bits, signed or unsigned, if it is a number. -/
def Value.isWord : Value → Bool
  | .number (.integer value) => -(twoPow 63 : Int) ≤ value && value < twoPow 64
  | .number (.double _) => false
  | _ => true

/-- Whether the keys of a value increase, if it is an object. -/
def Value.isOrdered : Value → Bool
  | .object fields => keysIncrease fields
  | _ => true

/-- What holds of a value if it holds of a value whenever it holds of the values inside it. -/
@[elab_as_elim]
theorem Value.induction {motive : Value → Prop}
    (null : motive .null)
    (bool : ∀ value, motive (.bool value))
    (number : ∀ value, motive (.number value))
    (string : ∀ text, motive (.string text))
    (array : ∀ items, (∀ item ∈ items, motive item) → motive (.array items))
    (object : ∀ fields, (∀ field ∈ fields, motive field.2) → motive (.object fields))
    (value : Value) : motive value :=
  @Value.rec motive (fun items => ∀ item ∈ items, motive item)
    (fun fields => ∀ field ∈ fields, motive field.2) (fun field => motive field.2)
    null bool number string array object
    (List.forall_mem_nil _) (fun _ _ first rest => List.forall_mem_cons.mpr ⟨first, rest⟩)
    (List.forall_mem_nil _) (fun _ _ first rest => List.forall_mem_cons.mpr ⟨first, rest⟩)
    (fun _ _ held => held) value

/-! ## What a tree stands for -/

/-- Items that are each read back are read back as a list. -/
theorem values?_map {items : List Value}
    (each : ∀ item ∈ items, item.tree.value? = some item) :
    Tree.values? (items.map Value.tree) = some items := by
  induction items with
  | nil => rfl
  | cons item rest ih =>
      obtain ⟨first, others⟩ := List.forall_mem_cons.mp each
      rw [List.map_cons, Tree.values?, first, ih others]

/-- Fields whose values are each read back are read back as a record. -/
theorem fieldValues?_map {fields : List (String × Value)}
    (each : ∀ field ∈ fields, field.2.tree.value? = some field.2) :
    Tree.fieldValues? (fields.map fun field => (some field.1, field.2.tree)) = some fields := by
  induction fields with
  | nil => rfl
  | cons field rest ih =>
      obtain ⟨first, others⟩ := List.forall_mem_cons.mp each
      simp only [List.map_cons, Tree.fieldValues?, first, ih others]

/-- Keys that increase from one to the next increase throughout. -/
theorem pairwise_of_keysIncrease {fields : List (String × Value)}
    (increases : keysIncrease fields = true) :
    fields.Pairwise fun field later => field.1 < later.1 := by
  induction fields with
  | nil => exact .nil
  | cons field rest ih =>
      cases rest with
      | nil => exact List.pairwise_singleton _ _
      | cons second rest =>
          simp only [keysIncrease, Bool.and_eq_true, decide_eq_true_eq] at increases
          obtain ⟨below, increases⟩ := increases
          have later := ih increases
          refine List.pairwise_cons.mpr ⟨fun other member => ?_, later⟩
          rcases List.mem_cons.mp member with rfl | member
          · exact below
          · exact String.lt_trans below ((List.pairwise_cons.mp later).1 other member)

/-- A field whose key is above all others goes to the end. -/
theorem insertField_of_above {key : String} {value : Value} {sorted : List (String × Value)}
    (above : ∀ field ∈ sorted, field.1 < key) :
    insertField key value sorted = sorted ++ [(key, value)] := by
  induction sorted with
  | nil => rfl
  | cons field rest ih =>
      obtain ⟨first, others⟩ := List.forall_mem_cons.mp above
      have unlike : (key == field.1) = false := by
        refine beq_eq_false_iff_ne.mpr fun same => ?_
        exact String.lt_irrefl _ (same ▸ first)
      simp only [insertField, String.lt_asymm first, if_false, unlike, Bool.false_eq_true,
        ih others, List.cons_append]

/-- Fields that are in order stay as they are. -/
theorem sortFields_of_keysIncrease {fields : List (String × Value)}
    (increases : keysIncrease fields = true) : sortFields fields = fields := by
  have sorted := pairwise_of_keysIncrease increases
  suffices grows : ∀ rest start : List (String × Value),
      (start ++ rest).Pairwise (fun field later => field.1 < later.1) →
      rest.foldl (fun sorted field => insertField field.1 field.2 sorted) start = start ++ rest from
    grows fields [] sorted
  intro rest
  induction rest with
  | nil => exact fun start _ => (List.append_nil start).symm
  | cons field rest ih =>
      intro start pairwise
      have above : ∀ other ∈ start, other.1 < field.1 := fun other member =>
        (List.pairwise_append.mp pairwise).2.2 other member field List.mem_cons_self
      rw [List.foldl_cons, insertField_of_above above]
      rw [List.append_cons start field rest] at pairwise ⊢
      exact ih (start ++ [field]) pairwise

/-- **The tree of a value stands for the value**, if its objects have their keys in order. -/
theorem Value.value?_tree {value : Value} (words : value.everywhere isWord = true)
    (ordered : value.everywhere isOrdered = true) : value.tree.value? = some value := by
  induction value using Value.induction with
  | null | bool _ | string _ => rfl
  | number value =>
      cases value with
      | integer value =>
          simp only [everywhere, isWord, Bool.and_eq_true, decide_eq_true_eq] at words
          simp only [tree, Number.literal, Tree.value?,
            Literal.value?_ofInteger words.1 words.2, Option.map_some]
      | double _ => cases words
  | array items ih =>
      simp only [everywhere, Bool.and_eq_true, itemsEverywhere_iff] at words ordered
      have read := values?_map fun item member =>
        ih item member (words.2 item member) (ordered.2 item member)
      simp only [tree, itemTrees_eq_map, Tree.value?, read, Option.map_some]
  | object fields ih =>
      simp only [everywhere, Bool.and_eq_true, fieldsEverywhere_iff] at words ordered
      have read := fieldValues?_map fun field member =>
        ih field member (words.2 field member) (ordered.2 field member)
      simp only [tree, fieldTrees_eq_map, Tree.value?, read, Option.map_some,
        sortFields_of_keysIncrease ordered.1]

end Json

end WalletTopUp
