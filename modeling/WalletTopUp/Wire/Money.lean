import WalletTopUp.Json.Record

/-!
# Amounts of money on the wire

The broker's answer to a conversion, an amount with its currency, and the limits of a top-up.
-/

namespace WalletTopUp

open Json

/-- The broker's answer to a conversion. -/
structure Quote where
  /-- The converted amount, unrounded. -/
  value : Decimal
  currency : String
  symbol : String
deriving DecidableEq, Inhabited

/-- An amount and its currency. -/
structure Money where
  amount : Decimal
  currency : String
  symbol : String
deriving DecidableEq, Inhabited

/-- The smallest and the largest amount of a top-up. -/
structure TopUpLimits where
  min : Money
  max : Money
deriving DecidableEq, Inhabited

namespace Money

/-- No money in no currency. -/
def nothing : Money := ⟨Decimal.zero, "", ""⟩

/-- Whether the amount is zero. -/
def isZero (money : Money) : Bool := money.amount.isZero

/-- Whether the amounts are one number in one currency. -/
def sameMoney (left right : Money) : Bool :=
  left.amount.sameNumber right.amount && left.currency == right.currency
    && left.symbol == right.symbol

end Money

/-- Whether both limits agree. -/
def TopUpLimits.sameLimits (left right : TopUpLimits) : Bool :=
  left.min.sameMoney right.min && left.max.sameMoney right.max

/-- The amount that a quote stands for. -/
def Quote.money (quote : Quote) : Money := ⟨quote.value, quote.currency, quote.symbol⟩

instance : Wire Quote where
  encode quote := .object [
    ("appcValue", decimal quote.value),
    ("currency", .string quote.currency),
    ("symbol", .string quote.symbol)]
  decode? tree := do
    let record ← Record.ofTree? [⟨"appcValue", false⟩, ⟨"currency", false⟩, ⟨"symbol", false⟩] tree
    let value ← record.required "appcValue" Tree.decimal?
    let currency ← record.required "currency" Tree.text?
    let symbol ← record.required "symbol" Tree.text?
    return { value, currency, symbol }

instance : Wire Money where
  encode money := .object [
    ("amount", decimal money.amount),
    ("currency", .string money.currency),
    ("symbol", .string money.symbol)]
  decode? tree := do
    let record ← Record.ofTree? [⟨"amount", false⟩, ⟨"currency", false⟩, ⟨"symbol", false⟩] tree
    let amount ← record.required "amount" Tree.decimal?
    let currency ← record.required "currency" Tree.text?
    let symbol ← record.required "symbol" Tree.text?
    return { amount, currency, symbol }

instance : Wire TopUpLimits where
  encode limits := .object [("min", encode limits.min), ("max", encode limits.max)]
  decode? tree := do
    let record ← Record.ofTree? [⟨"min", false⟩, ⟨"max", false⟩] tree
    let min ← record.required "min" decode?
    let max ← record.required "max" decode?
    return { min, max }

end WalletTopUp
