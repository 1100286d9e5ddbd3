import Mathlib.Data.List.Induction
import WalletTopUp.Proofs.Decimal.Order
import WalletTopUp.Rates.Store

/-!
# What a table of rates finds

The last result that was stored under a key is found under it, and two amounts that are one number
are one key (`RateTable.find?_storing`).  So a table into which saves have been stored finds under
the key of each of them its rate or one that was saved later (`RateTable.keeps_storing`).
-/

namespace WalletTopUp

/-! ## Keys -/

namespace RateKey

variable {first second third : RateKey}

/-- Two keys are one if they are of one direction and their amounts are one number. -/
theorem sameKey_iff :
    first.sameKey second = true
      ↔ first.direction = second.direction
        ∧ first.sourceAmount.sameNumber second.sourceAmount = true := by
  rw [sameKey, Bool.and_eq_true, beq_iff_eq]

/-- A key is the same as itself. -/
theorem sameKey_refl (key : RateKey) : key.sameKey key = true :=
  sameKey_iff.mpr ⟨rfl, Decimal.sameNumber_refl _⟩

/-- Being one key goes both ways. -/
theorem sameKey_symm (same : first.sameKey second = true) : second.sameKey first = true := by
  rw [sameKey_iff] at *
  exact ⟨same.1.symm, Decimal.sameNumber_symm same.2⟩

/-- Being one key goes on. -/
theorem sameKey_trans (left : first.sameKey second = true) (right : second.sameKey third = true) :
    first.sameKey third = true := by
  rw [sameKey_iff] at *
  exact ⟨left.1.trans right.1, Decimal.sameNumber_trans left.2 right.2⟩

/-- Two keys that are one are one with the same keys. -/
theorem sameKey_congr (same : first.sameKey second = true) (third : RateKey) :
    first.sameKey third = second.sameKey third :=
  Bool.eq_iff_iff.mpr ⟨sameKey_trans (sameKey_symm same), sameKey_trans same⟩

end RateKey

namespace RateTable

variable {table : RateTable} {saves : List RateRecord}

/-! ## Storing one result -/

/-- The first result of a table is found under its own key, and the others otherwise. -/
theorem find?_cons (record : RateRecord) (table : RateTable) (key : RateKey) :
    RateTable.find? (record :: table) key
      = if record.key.sameKey key then some record.rate else table.find? key := by
  rw [RateTable.find?, List.find?_cons]
  cases record.key.sameKey key <;> rfl

/-- **A result is found under the key it has been stored under, and all other keys find what they
found before.** -/
theorem find?_insert (table : RateTable) (key : RateKey) (rate : CachedRate) (other : RateKey) :
    (table.insert key rate).find? other
      = if key.sameKey other then some rate else table.find? other := by
  induction table with
  | nil => exact find?_cons _ _ _
  | cons record table ih =>
      rw [insert]
      split
      · next same =>
          rw [find?_cons, find?_cons, RateKey.sameKey_congr same other]
          split <;> rfl
      · next apart =>
          rw [find?_cons, find?_cons, ih]
          split
          · next found =>
              have unlike : key.sameKey other = false := by
                refine Bool.eq_false_iff.mpr fun same => apart ?_
                exact RateKey.sameKey_trans found (RateKey.sameKey_symm same)
              rw [unlike]
              rfl
          · rfl

/-- A result under a new key becomes the last one. -/
theorem insert_of_new {key : RateKey} (rate : CachedRate)
    (new : ∀ record ∈ table, record.key.sameKey key = false) :
    table.insert key rate = table ++ [⟨key, rate⟩] := by
  induction table with
  | nil => rfl
  | cons first table ih =>
      obtain ⟨unlike, others⟩ := List.forall_mem_cons.mp new
      rw [insert, unlike]
      exact congrArg (first :: ·) (ih others)

/-- No two results of a table have one key. -/
def Distinct (table : RateTable) : Prop :=
  table.Pairwise fun first second => first.key.sameKey second.key = false

/-- Every key of a table after a save was there or is the one that was saved. -/
theorem key_of_mem_insert {key : RateKey} {rate : CachedRate} {record : RateRecord}
    (member : record ∈ table.insert key rate) :
    record.key = key ∨ ∃ other ∈ table, other.key = record.key := by
  induction table with
  | nil =>
      rw [List.mem_singleton.mp member]
      exact .inl rfl
  | cons first table ih =>
      rw [insert] at member
      split at member
      · rcases List.mem_cons.mp member with rfl | member
        · exact .inr ⟨first, List.mem_cons_self, rfl⟩
        · exact .inr ⟨record, List.mem_cons_of_mem _ member, rfl⟩
      · rcases List.mem_cons.mp member with rfl | member
        · exact .inr ⟨record, List.mem_cons_self, rfl⟩
        · rcases ih member with same | ⟨other, inside, same⟩
          · exact .inl same
          · exact .inr ⟨other, List.mem_cons_of_mem _ inside, same⟩

/-- A save leaves one result for each key. -/
theorem distinct_insert (distinct : table.Distinct) (key : RateKey) (rate : CachedRate) :
    (table.insert key rate).Distinct := by
  induction table with
  | nil => exact List.pairwise_singleton _ _
  | cons first table ih =>
      obtain ⟨apart, rest⟩ := List.pairwise_cons.mp distinct
      rw [insert]
      split
      · exact List.pairwise_cons.mpr ⟨apart, rest⟩
      · next unlike =>
          refine List.pairwise_cons.mpr ⟨fun record member => ?_, ih rest⟩
          rcases key_of_mem_insert member with same | ⟨other, inside, same⟩
          · rw [same]
            exact Bool.eq_false_iff.mpr unlike
          · rw [← same]
            exact apart other inside

/-! ## Storing results one after the other -/

/-- The table after saves. -/
def storing (table : RateTable) (saves : List RateRecord) : RateTable :=
  saves.foldl (fun table record => table.insert record.key record.rate) table

/-- Saves are stored one after another. -/
theorem storing_append (table : RateTable) (first second : List RateRecord) :
    table.storing (first ++ second) = (table.storing first).storing second := List.foldl_append

/-- The last save is stored last. -/
theorem storing_concat (table : RateTable) (saves : List RateRecord) (record : RateRecord) :
    table.storing (saves ++ [record]) = (table.storing saves).insert record.key record.rate :=
  storing_append table saves [record]

/-- Saves leave one result for each key. -/
theorem distinct_storing (distinct : table.Distinct) (saves : List RateRecord) :
    (table.storing saves).Distinct := by
  induction saves using List.reverseRecOn with
  | nil => exact distinct
  | append_singleton saves record ih =>
      rw [storing_concat]
      exact distinct_insert ih _ _

/-- **The last save under a key wins.** -/
theorem find?_storing (table : RateTable) (saves : List RateRecord) (key : RateKey) :
    (table.storing saves).find? key
      = ((saves.reverse.find? fun record => record.key.sameKey key).map RateRecord.rate).or
          (table.find? key) := by
  induction saves using List.reverseRecOn with
  | nil => rfl
  | append_singleton saves record ih =>
      rw [storing_concat, find?_insert, List.reverse_append, List.reverse_singleton,
        List.singleton_append, List.find?_cons, ih]
      cases record.key.sameKey key <;> rfl

/-- Records with different keys are a table as they are. -/
theorem ofRecords_of_distinct (distinct : table.Distinct) : ofRecords table = table := by
  change RateTable.storing [] table = table
  induction table using List.reverseRecOn with
  | nil => rfl
  | append_singleton table record ih =>
      obtain ⟨earlier, _, apart⟩ := List.pairwise_append.mp distinct
      rw [storing_concat, ih earlier, insert_of_new]
      exact fun other member => apart other member record List.mem_cons_self

/-! ## What is kept -/

/-- Under the key of a save a table finds the rate of this save or of a later one. -/
def Keeps (table : RateTable) (saves : List RateRecord) (number : Nat) : Prop :=
  ∀ saved, saves[number]? = some saved →
    ∃ later record, number ≤ later ∧ saves[later]? = some record
      ∧ record.key.sameKey saved.key = true ∧ table.find? saved.key = some record.rate

/-- **A table keeps the saves that have been stored into it.** -/
theorem keeps_storing (table : RateTable) (saves : List RateRecord) {number taken : Nat}
    (within : number < taken) : Keeps (table.storing (saves.take taken)) saves number := by
  intro saved found
  induction taken with
  | zero => exact absurd within (Nat.not_lt_zero number)
  | succ taken ih =>
      cases last : saves[taken]? with
      | none =>
          have all : saves.length ≤ taken := List.getElem?_eq_none_iff.mp last
          have inside : number < saves.length := (List.getElem?_eq_some_iff.mp found).1
          rw [List.take_of_length_le (Nat.le_succ_of_le all)]
          rw [List.take_of_length_le all] at ih
          exact ih (Nat.lt_of_lt_of_le inside all)
      | some record =>
          rw [List.take_add_one, last, Option.toList_some, storing_concat, find?_insert]
          by_cases same : record.key.sameKey saved.key = true
          · exact ⟨taken, record, Nat.le_of_lt_succ within, last, same, by rw [if_pos same]⟩
          · rw [if_neg same]
            refine ih (Nat.lt_of_le_of_ne (Nat.le_of_lt_succ within) ?_)
            rintro rfl
            cases found.symm.trans last
            exact same (RateKey.sameKey_refl _)

end RateTable

namespace RateStore

/-! ## Rates in memory -/

/-- A store after saves. -/
def saving (store : RateStore) (saves : List RateRecord) : RateStore :=
  saves.foldl (fun store record => (store.save record.key record.rate).2) store

/-- Results in memory are one table. -/
theorem saving_memory (table : RateTable) (saves : List RateRecord) :
    (memory table).saving saves = memory (table.storing saves) := by
  induction saves generalizing table with
  | nil => rfl
  | cons record saves ih => exact ih _

end RateStore

end WalletTopUp
