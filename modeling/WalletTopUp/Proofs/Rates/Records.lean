import WalletTopUp.Proofs.Rates.Table
import WalletTopUp.Proofs.Wire.RoundTrip

/-!
# The text of a table of rates

A table with different keys, whose timestamps can be read from their own texts, is read back from
its text (`FileCache.parse?_render`).
-/

namespace WalletTopUp

open Json

variable {levels : Nat} {tree : Tree}

/-! ## Reading a record back -/

/-- The direction of a rate is known by its name. -/
theorem RateDirection.ofName?_name (direction : RateDirection) :
    ofName? direction.name = some direction := by
  cases direction <;> rfl

/-- The direction of a rate is read from its name. -/
theorem RateDirection.decode?_of_respelled {direction : RateDirection}
    (respelled : (encode direction).tree.Respelled levels tree) :
    decode? tree = some direction := by
  rw [Tree.eq_of_respelled (by rintro _ ⟨⟩) respelled]
  exact ofName?_name direction

/-- A key is read from every respelling of it. -/
theorem RateKey.decode?_of_respelled {key : RateKey}
    (respelled : (encode key).tree.Respelled (levels + 1) tree) : decode? tree = some key := by
  refine Record.read_of_respelled rfl (by decide) respelled fun record finds => ?_
  simp only [List.forall_mem_cons] at finds
  obtain ⟨direction, sourceAmount, _⟩ := finds
  simp only [direction.required fun _ => RateDirection.decode?_of_respelled, sourceAmount.decimal,
    Option.bind_eq_bind, Option.bind_some]
  rfl

/-- A timestamp that can be read from its own text. -/
def Timestamp.Lasts (stamp : Timestamp) : Prop := ofText? stamp.toText = some stamp

instance (stamp : Timestamp) : Decidable stamp.Lasts :=
  inferInstanceAs (Decidable (Timestamp.ofText? stamp.toText = some stamp))

/-- A timestamp that lasts is read from its text. -/
theorem Timestamp.decode?_of_respelled {stamp : Timestamp} (lasts : stamp.Lasts)
    (respelled : (encode stamp).tree.Respelled levels tree) : decode? tree = some stamp := by
  have text : tree.text? = some stamp.toText := text?_of_respelled respelled
  change tree.text?.bind Timestamp.ofText? = some stamp
  rw [text, Option.bind_some]
  exact lasts

/-- A rate is read from every respelling of it, if its timestamp lasts. -/
theorem CachedRate.decode?_of_respelled {rate : CachedRate} (lasts : rate.savedAt.Lasts)
    (respelled : (encode rate).tree.Respelled (levels + 1) tree) : decode? tree = some rate := by
  refine Record.read_of_respelled rfl (by decide) respelled fun record finds => ?_
  simp only [List.forall_mem_cons] at finds
  obtain ⟨amount, currency, symbol, savedAt, _⟩ := finds
  simp only [amount.decimal, currency.text, symbol.text,
    savedAt.required fun _ => Timestamp.decode?_of_respelled lasts, Option.bind_eq_bind,
    Option.bind_some]
  rfl

/-- A record is read from every respelling, of the key and the rate inside as well. -/
theorem RateRecord.decode?_of_respelled {record : RateRecord} (lasts : record.rate.savedAt.Lasts)
    (respelled : (encode record).tree.Respelled (levels + 2) tree) :
    decode? tree = some record := by
  refine Record.read_of_respelled rfl (by decide) respelled fun fields finds => ?_
  simp only [List.forall_mem_cons] at finds
  obtain ⟨key, rate, _⟩ := finds
  simp only [key.required fun _ => RateKey.decode?_of_respelled,
    rate.required fun _ => CachedRate.decode?_of_respelled lasts, Option.bind_eq_bind,
    Option.bind_some]
  rfl

/-- A record survives in the file. -/
theorem RateRecord.survives {record : RateRecord} (lasts : record.rate.savedAt.Lasts) :
    Wire.Survives 2 record :=
  Wire.survives_of_decode rfl fun _ => decode?_of_respelled lasts

/-! ## Reading a table back -/

namespace RateTable

variable {table : RateTable}

/-- The timestamps of all results can be read from their own texts. -/
def Lasts (table : RateTable) : Prop := ∀ record ∈ table, record.rate.savedAt.Lasts

/-- A save whose timestamp lasts leaves a table of such timestamps. -/
theorem lasts_insert {key : RateKey} {rate : CachedRate} (lasts : table.Lasts)
    (stamp : rate.savedAt.Lasts) : (table.insert key rate).Lasts := by
  induction table with
  | nil => exact List.forall_mem_singleton.mpr stamp
  | cons first table ih =>
      obtain ⟨head, tail⟩ := List.forall_mem_cons.mp lasts
      rw [insert]
      split
      · exact List.forall_mem_cons.mpr ⟨stamp, tail⟩
      · exact List.forall_mem_cons.mpr ⟨head, ih tail⟩

/-- So do any number of saves. -/
theorem lasts_storing {saves : List RateRecord} (lasts : table.Lasts)
    (stamps : RateTable.Lasts saves) : (table.storing saves).Lasts := by
  induction saves using List.reverseRecOn with
  | nil => exact lasts
  | append_singleton saves record ih =>
      obtain ⟨earlier, last⟩ := List.forall_mem_append.mp stamps
      rw [storing_concat]
      exact lasts_insert (ih earlier) (last record List.mem_cons_self)

/-- A table is read back record by record. -/
theorem readAll?_encode (lasts : table.Lasts) :
    readAll? (itemTrees (table.map encode)) = some table := by
  induction table with
  | nil => rfl
  | cons record table ih =>
      obtain ⟨head, tail⟩ := List.forall_mem_cons.mp lasts
      have first : decode? (encode record).tree = some record :=
        RateRecord.decode?_of_respelled head (Tree.respelled_refl 2 _)
      rw [List.map_cons, itemTrees, readAll?, first, ih tail]

end RateTable

/-- **A table is read back from its text.** -/
theorem FileCache.parse?_render {table : RateTable} (distinct : table.Distinct)
    (lasts : table.Lasts) : parse? (render table) = some table := by
  have words : (encode table).everywhere Value.isWord = true := by
    refine (@itemsEverywhere_iff Value.isWord _).mpr fun item member => ?_
    obtain ⟨record, _, rfl⟩ := List.mem_map.mp member
    rfl
  rw [parse?, render, Wire.parse?, parse?_pretty words, Option.bind_some]
  change (readAll? (itemTrees (table.map encode))).map RateTable.ofRecords = some table
  rw [RateTable.readAll?_encode lasts, Option.map_some, RateTable.ofRecords_of_distinct distinct]

end WalletTopUp
