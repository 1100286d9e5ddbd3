import Mathlib.Data.List.Nodup
import Mathlib.Data.List.Perm.Basic
import WalletTopUp.Proofs.Json.Trees

/-!
# Reading records whose fields come in another order

The fields of an object may come in any order, and fields that the record does not know may stand
among them (`Json.Tree.Respelled`): every field of the record is found under its name all the same
(`Json.Record.finds_of_respelled`).
-/

namespace WalletTopUp

namespace Json

variable {α : Type} {specs : List FieldSpec} {record : Record} {name : String} {levels : Nat}

/-! ## Saying the same in another way -/

/-- The other tree says the same to a reader of records.  In the objects that stand inside fewer
brackets than `levels`, the fields may come in another order, and fields with other keys may stand
among them. -/
def Tree.Respelled : Nat → Tree → Tree → Prop
  | levels + 1, .object fields, .object others =>
    ∃ known unknown, others.Perm (known ++ unknown)
      ∧ List.Forall₂ (fun field other => other.1 = field.1 ∧ Respelled levels field.2 other.2)
        fields known
      ∧ ∀ field ∈ unknown, ∃ key, field.1 = some key ∧ some key ∉ fields.map Prod.fst
  | _, tree, other => other = tree

/-- A tree is a respelling of itself. -/
theorem Tree.respelled_refl (levels : Nat) (tree : Tree) : tree.Respelled levels tree := by
  induction levels generalizing tree with
  | zero => rfl
  | succ levels ih =>
      cases tree with
      | object fields =>
          refine ⟨fields, [], by rw [List.append_nil], ?_, List.forall_mem_nil _⟩
          exact List.forall₂_same.mpr fun field _ => ⟨rfl, ih field.2⟩
      | _ => rfl

/-- What is not an object has no other spelling. -/
theorem Tree.eq_of_respelled {tree other : Tree} (scalar : ∀ fields, tree ≠ .object fields)
    (respelled : tree.Respelled levels other) : other = tree := by
  unfold Respelled at respelled
  split at respelled
  · exact (scalar _ rfl).elim
  · exact respelled

/-- A respelled object is an object. -/
theorem Tree.object_of_respelled {fields : List (Option String × Tree)} {other : Tree}
    (respelled : (Tree.object fields).Respelled levels other) :
    ∃ others, other = .object others := by
  unfold Respelled at respelled
  split at respelled
  · exact ⟨_, rfl⟩
  · exact ⟨_, respelled⟩

/-! ## Finding the fields of a record -/

/-- A field as the record keeps it, if the record knows its key. -/
def knownField? (specs : List FieldSpec) (field : Option String × Tree) : Option (String × Tree) :=
  match field.1 with
  | none => none
  | some key => if specs.any (fun spec => spec.name == key) then some (key, field.2) else none

/-- The fields of an object whose known keys are distinct are those with a known key. -/
theorem ofFields?_eq_filterMap {fields : List (Option String × Tree)}
    (named : ∀ field ∈ fields, field.1 ≠ none)
    (distinct : ((fields.filterMap (knownField? specs)).map Prod.fst).Nodup) :
    Record.ofFields? specs fields = some (fields.filterMap (knownField? specs)) := by
  induction fields with
  | nil => rfl
  | cons field rest ih =>
      obtain ⟨key, tree⟩ := field
      obtain ⟨namedFirst, namedRest⟩ := List.forall_mem_cons.mp named
      cases key with
      | none => exact (namedFirst rfl).elim
      | some key =>
          by_cases known : specs.any (fun spec => spec.name == key) = true
          · have first : knownField? specs (some key, tree) = some (key, tree) := if_pos known
            rw [List.filterMap_cons_some first] at distinct ⊢
            rw [List.map_cons, List.nodup_cons] at distinct
            have fresh : (rest.filterMap (knownField? specs)).any (fun field => field.1 == key)
                = false := by
              refine List.any_eq_false.mpr fun field member same => distinct.1 ?_
              exact List.mem_map.mpr ⟨field, member, beq_iff_eq.mp same⟩
            simp only [Record.ofFields?, ih namedRest distinct.2, known, if_true, fresh,
              Bool.false_eq_true, if_false]
          · have first : knownField? specs (some key, tree) = none := if_neg known
            rw [List.filterMap_cons_none first] at distinct ⊢
            simp only [Record.ofFields?, ih namedRest distinct, known, Bool.false_eq_true, if_false]

/-- A field is found under its name when no other has that name. -/
theorem lookup_of_mem {tree : Tree} (distinct : (record.map Prod.fst).Nodup)
    (member : (name, tree) ∈ record) : List.lookup name record = some tree := by
  induction record with
  | nil => cases member
  | cons field rest ih =>
      rw [List.map_cons, List.nodup_cons] at distinct
      rcases List.mem_cons.mp member with rfl | member
      · rw [List.lookup_cons, beq_self_eq_true]
      · have unlike : (name == field.1) = false := by
          refine beq_eq_false_iff_ne.mpr ?_
          rintro rfl
          exact distinct.1 (List.mem_map.mpr ⟨_, member, rfl⟩)
        rw [List.lookup_cons, unlike]
        exact ih distinct.2 member

/-- The record has a field of this name, which says the same as the value. -/
def Record.Finds (record : Record) (levels : Nat) (name : String) (value : Value) : Prop :=
  ∃ tree, record.get? name = some tree ∧ value.tree.Respelled levels tree

/-- The known fields of an object that says the same as another one. -/
theorem known_of_forall₂ {own : List (String × Value)} {known : List (Option String × Tree)}
    (knows : ∀ field ∈ own, specs.any (fun spec => spec.name == field.1) = true)
    (same : List.Forall₂ (fun field other => other.1 = field.1
      ∧ Tree.Respelled levels field.2 other.2) (fieldTrees own) known) :
    (∀ field ∈ known, field.1 ≠ none)
      ∧ (known.filterMap (knownField? specs)).map Prod.fst = own.map Prod.fst
      ∧ ∀ field ∈ own, ∃ tree, (field.1, tree) ∈ known.filterMap (knownField? specs)
          ∧ field.2.tree.Respelled levels tree := by
  induction own generalizing known with
  | nil =>
      cases same
      exact ⟨List.forall_mem_nil _, rfl, List.forall_mem_nil _⟩
  | cons field own ih =>
      obtain ⟨knowsFirst, knowsRest⟩ := List.forall_mem_cons.mp knows
      cases same with
      | @cons _ other _ known head tail =>
          obtain ⟨key, respelled⟩ := head
          obtain ⟨named, keys, found⟩ := ih knowsRest tail
          have first : knownField? specs other = some (field.1, other.2) := by
            rw [knownField?, key]
            exact if_pos knowsFirst
          rw [List.filterMap_cons_some first]
          refine ⟨List.forall_mem_cons.mpr ⟨?_, named⟩, ?_, List.forall_mem_cons.mpr ⟨?_, ?_⟩⟩
          · rw [key]
            exact Option.some_ne_none _
          · rw [List.map_cons, keys, List.map_cons]
          · exact ⟨other.2, List.mem_cons_self, respelled⟩
          · intro later member
            obtain ⟨tree, inside, respelledLater⟩ := found later member
            exact ⟨tree, List.mem_cons_of_mem _ inside, respelledLater⟩

/-- **A record finds its fields in every order and among unknown ones.** -/
theorem Record.finds_of_respelled {own : List (String × Value)} {tree : Tree}
    (names : specs.map FieldSpec.name = own.map Prod.fst)
    (distinct : (specs.map FieldSpec.name).Nodup)
    (respelled : (Value.object own).tree.Respelled (levels + 1) tree) :
    ∃ record, Record.ofTree? specs tree = some record
      ∧ ∀ field ∈ own, record.Finds levels field.1 field.2 := by
  obtain ⟨others, rfl⟩ := Tree.object_of_respelled respelled
  obtain ⟨known, unknown, order, same, foreign⟩ := respelled
  have knows_iff : ∀ key, specs.any (fun spec => spec.name == key) = true
      ↔ key ∈ own.map Prod.fst := by
    intro key
    rw [← names, List.any_eq_true, List.mem_map]
    exact exists_congr fun spec => and_congr_right fun _ => beq_iff_eq
  have knows : ∀ field ∈ own, specs.any (fun spec => spec.name == field.1) = true :=
    fun field member => (knows_iff field.1).mpr (List.mem_map_of_mem member)
  obtain ⟨named, keys, found⟩ := known_of_forall₂ knows same
  have ignored : unknown.filterMap (knownField? specs) = [] := by
    refine List.filterMap_eq_nil_iff.mpr fun field member => ?_
    obtain ⟨key, keyed, strange⟩ := foreign field member
    rw [knownField?, keyed]
    refine if_neg fun known => strange ?_
    obtain ⟨spec, inside, rfl⟩ := List.mem_map.mp ((knows_iff key).mp known)
    rw [fieldTrees_eq_map, List.map_map]
    exact List.mem_map.mpr ⟨spec, inside, rfl⟩
  have kept :
      (others.filterMap (knownField? specs)).Perm (known.filterMap (knownField? specs)) := by
    have parts := order.filterMap (knownField? specs)
    rwa [List.filterMap_append, ignored, List.append_nil] at parts
  have distinctKept : ((others.filterMap (knownField? specs)).map Prod.fst).Nodup := by
    rw [(kept.map Prod.fst).nodup_iff, keys, ← names]
    exact distinct
  refine ⟨_, ofFields?_eq_filterMap (fun field member => ?_) distinctKept, fun field member => ?_⟩
  · rcases List.mem_append.mp (order.mem_iff.mp member) with inKnown | inUnknown
    · exact named field inKnown
    · obtain ⟨key, keyed, _⟩ := foreign field inUnknown
      rw [keyed]
      exact Option.some_ne_none _
  · obtain ⟨tree, inside, same⟩ := found field member
    exact ⟨tree, lookup_of_mem distinctKept (kept.mem_iff.mpr inside), same⟩

/-- What is read from the fields of a record is read in every order and among unknown fields. -/
theorem Record.read_of_respelled {own : List (String × Value)} {tree : Tree} {content : α}
    {read : Record → Option α}
    (names : specs.map FieldSpec.name = own.map Prod.fst)
    (distinct : (specs.map FieldSpec.name).Nodup)
    (respelled : (Value.object own).tree.Respelled (levels + 1) tree)
    (reads : ∀ record, (∀ field ∈ own, record.Finds levels field.1 field.2) →
      read record = some content) :
    (Record.ofTree? specs tree).bind read = some content := by
  obtain ⟨record, found, finds⟩ := finds_of_respelled names distinct respelled
  rw [found, Option.bind_some]
  exact reads record finds

/-! ## Reading the fields of a record -/

namespace Record.Finds

variable {value : Value} {read : Tree → Option α}

/-- A field that is found and read gives its content. -/
theorem required {content : α} (finds : record.Finds levels name value)
    (reads : ∀ tree, value.tree.Respelled levels tree → read tree = some content) :
    record.required name read = some content := by
  obtain ⟨tree, get, respelled⟩ := finds
  rw [Record.required, get]
  exact reads tree respelled

/-- So does one that might have been left out. -/
theorem orElse {content absent : α} (finds : record.Finds levels name value)
    (reads : ∀ tree, value.tree.Respelled levels tree → read tree = some content) :
    record.orElse name read absent = some content := by
  obtain ⟨tree, get, respelled⟩ := finds
  simp only [Record.orElse, get]
  exact reads tree respelled

/-- Null is read as nothing, and everything else as itself. -/
theorem optional {content : Option α} {write : α → Value}
    (finds : record.Finds levels name (Value.optional write content))
    (null : read .null = none)
    (reads : ∀ inside tree, (write inside).tree.Respelled levels tree → read tree = some inside) :
    record.optional name read = some content := by
  obtain ⟨tree, get, respelled⟩ := finds
  simp only [Record.optional, get]
  cases content with
  | none =>
      rw [Tree.eq_of_respelled (fun _ same => by cases same) respelled]
      rfl
  | some inside =>
      have read := reads inside tree respelled
      split
      · next same => cases same
      · next same =>
          cases same
          cases null.symm.trans read
      · next same =>
          cases same
          rw [read, Option.map_some]

end Record.Finds

end Json

end WalletTopUp
