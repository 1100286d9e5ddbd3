import WalletTopUp.Rates.Key
import WalletTopUp.Rates.Timestamp

/-!
# Stored rates

The results of conversions by their keys.  A result that is stored again replaces the one before,
and the key stays as it was stored first.
-/

namespace WalletTopUp

open Json

/-- A stored result of a conversion. -/
structure CachedRate where
  amount : Decimal
  currency : String
  symbol : String
  savedAt : Timestamp
deriving DecidableEq, Inhabited

/-- What a stored result is worth. -/
def CachedRate.money (rate : CachedRate) : Money := ⟨rate.amount, rate.currency, rate.symbol⟩

/-- The result of a conversion as it is stored. -/
def CachedRate.ofMoney (money : Money) (savedAt : Timestamp) : CachedRate :=
  ⟨money.amount, money.currency, money.symbol, savedAt⟩

/-- A stored result with its key. -/
structure RateRecord where
  key : RateKey
  rate : CachedRate
deriving DecidableEq, Inhabited

/-- All stored results, the first stored first. -/
abbrev RateTable := List RateRecord

namespace RateTable

/-- Store a result. -/
def insert (table : RateTable) (key : RateKey) (rate : CachedRate) : RateTable :=
  match table with
  | [] => [⟨key, rate⟩]
  | record :: rest =>
    if record.key.sameKey key then { record with rate } :: rest
    else record :: insert rest key rate

/-- The result stored under a key. -/
def find? (table : RateTable) (key : RateKey) : Option CachedRate :=
  (List.find? (fun record => record.key.sameKey key) table).map RateRecord.rate

/-- The table of a list of records, of which the later ones win. -/
def ofRecords (records : List RateRecord) : RateTable :=
  records.foldl (fun table record => insert table record.key record.rate) []

end RateTable

instance : Wire RateDirection where
  encode direction := .string direction.name
  decode? tree := tree.alternative?.bind RateDirection.ofName?

instance : Wire Timestamp where
  encode stamp := .string stamp.toText
  decode? tree := tree.text?.bind Timestamp.ofText?

instance : Wire RateKey where
  encode key := .object [
    ("direction", encode key.direction), ("source_amount", decimal key.sourceAmount)]
  decode? tree := do
    let record ← Record.ofTree? [⟨"direction", false⟩, ⟨"source_amount", false⟩] tree
    let direction ← record.required "direction" decode?
    let sourceAmount ← record.required "source_amount" Tree.decimal?
    return { direction, sourceAmount }

instance : Wire CachedRate where
  encode rate := .object [
    ("amount", decimal rate.amount),
    ("currency", .string rate.currency),
    ("symbol", .string rate.symbol),
    ("saved_at", encode rate.savedAt)]
  decode? tree := do
    let record ← Record.ofTree?
      [⟨"amount", false⟩, ⟨"currency", false⟩, ⟨"symbol", false⟩, ⟨"saved_at", false⟩] tree
    let amount ← record.required "amount" Tree.decimal?
    let currency ← record.required "currency" Tree.text?
    let symbol ← record.required "symbol" Tree.text?
    let savedAt ← record.required "saved_at" decode?
    return { amount, currency, symbol, savedAt }

instance : Wire RateRecord where
  encode record := .object [("key", encode record.key), ("rate", encode record.rate)]
  decode? tree := do
    let record ← Record.ofTree? [⟨"key", false⟩, ⟨"rate", false⟩] tree
    let key ← record.required "key" decode?
    let rate ← record.required "rate" decode?
    return { key, rate }

end WalletTopUp
