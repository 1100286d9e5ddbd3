import WalletTopUp.Amount.Value

/-!
# The amount entry

Both sides of the amount field.  The selected side is the one the user types in; the other side is
derived from it by a conversion.
-/

namespace WalletTopUp

/-- The two sides of the amount field. -/
inductive Side where
  /-- The user's local currency. -/
  | fiat
  /-- The wallet's token. -/
  | token
deriving DecidableEq, Inhabited

namespace Side

/-- The opposite side. -/
def other : Side → Side
  | fiat => token
  | token => fiat

/-- The name of a side. -/
def name : Side → String
  | fiat => "fiat"
  | token => "token"

@[simp] theorem other_other (side : Side) : side.other.other = side := by
  cases side <;> rfl

end Side

/-- The user's local currency. -/
structure LocalCurrency where
  code : String := ""
  symbol : String := ""
deriving DecidableEq, Inhabited

/-- Both sides of the amount field. -/
structure AmountEntry where
  /-- The text as typed on the selected side. -/
  rawText : String := ""
  /-- The side the user types in. -/
  selected : Side := .fiat
  fiat : AmountValue := .unknown
  token : AmountValue := .unknown
  currency : LocalCurrency := {}
deriving DecidableEq, Inhabited

namespace AmountEntry

/-- The amount of one side. -/
def side (entry : AmountEntry) : Side → AmountValue
  | .fiat => entry.fiat
  | .token => entry.token

/-- The amount of the selected side. -/
def source (entry : AmountEntry) : AmountValue := entry.side entry.selected

/-- The amount of the side that is not selected. -/
def derived (entry : AmountEntry) : AmountValue := entry.side entry.selected.other

/-- The entry with the amount of one side replaced. -/
def withSide (entry : AmountEntry) (side : Side) (value : AmountValue) : AmountEntry :=
  match side with
  | .fiat => { entry with fiat := value }
  | .token => { entry with token := value }

/-- The entry with the other side selected and the field showing that side's amount. -/
def switched (entry : AmountEntry) : AmountEntry :=
  { entry with
    selected := entry.selected.other
    rawText := entry.derived.fieldText }

@[simp] theorem side_withSide_self (entry : AmountEntry) (side : Side) (value : AmountValue) :
    (entry.withSide side value).side side = value := by
  cases side <;> rfl

@[simp] theorem side_withSide_other (entry : AmountEntry) (side : Side) (value : AmountValue) :
    (entry.withSide side value).side side.other = entry.side side.other := by
  cases side <;> rfl

/-- Whether two entries agree, amounts being compared as numbers. -/
def sameEntry (left right : AmountEntry) : Bool :=
  left.rawText == right.rawText && left.selected == right.selected
    && left.fiat.sameValue right.fiat && left.token.sameValue right.token
    && left.currency == right.currency

end AmountEntry

end WalletTopUp
