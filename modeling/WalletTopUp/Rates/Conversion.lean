import WalletTopUp.Amount.Pattern
import WalletTopUp.Decimal.Normal
import WalletTopUp.Decimal.Rounding
import WalletTopUp.Service.Dialogue
import WalletTopUp.Text.Blank
import WalletTopUp.Text.Quoted

/-!
# Conversions

Amounts are converted by the broker and rounded down to a number of decimal places.  What a
conversion of tokens into the local currency gave is stored, so that the last known value is at
hand when the broker is not.
-/

namespace WalletTopUp

/-- Why a conversion has no result. -/
inductive ConversionError where
  | invalidAmount (text : String)
  | invalidScale (scale : Nat)
  | service (error : ServiceError)
  | cache (error : CacheError)
  | notCached (direction : RateDirection) (amount : Decimal)
deriving DecidableEq, Inhabited

/-- The word for the kind of a conversion error. -/
def ConversionError.kind : ConversionError → String
  | .invalidAmount _ => "InvalidAmount"
  | .invalidScale _ => "InvalidScale"
  | .service _ => "Service"
  | .cache error => error.kind
  | .notCached _ _ => "NotCached"

/-- The text of a conversion error. -/
def ConversionError.message : ConversionError → String
  | .invalidAmount text => "not a non-negative decimal: " ++ Text.quote text
  | .invalidScale scale =>
    "scale " ++ toString scale ++ " is out of range (max " ++ toString Decimal.maxScale ++ ")"
  | .service error => "conversion failed: " ++ error.message
  | .cache error => error.message
  | .notCached direction amount =>
    "no cached value for " ++ direction.label ++ " " ++ amount.toText

/-- The wallet's token. -/
def tokenCode : String := "APPC"

/-- The currency of the other stored conversions. -/
def etherCode : String := "ETH"

/-- How conversions are made. -/
structure Converter where
  /-- Whether results are stored. -/
  stores : Bool := false
deriving DecidableEq, Inhabited

/-- What a conversion comes to. -/
abbrev ConversionResult : Type := Except ConversionError Money

namespace Converter

/-- A text without the blanks around it. -/
def trimmed (text : String) : String := String.ofList (Text.trim text.toList)

/-- What the broker's answer is worth at a scale. -/
def roundQuote (scale : Nat) (quote : Quote) : Money :=
  ⟨quote.value.floorToScale scale, quote.currency, quote.symbol⟩

/-- Convert `amount` of `source` into `target`, or into the local currency, keeping at most `scale`
decimal places. -/
def convert (amount source : String) (target : Option String) (scale : Nat) :
    Dialogue ConversionResult :=
  let amount := trimmed amount
  if !Amount.isNonNegative amount then .done (.error (.invalidAmount amount))
  else if Decimal.maxScale < scale then .done (.error (.invalidScale scale))
  else .call (.quote source amount target) fun
    | .error error => .done (.error (.service error))
    | .ok quote => .done (.ok (roundQuote scale quote))

/-- The key under which the conversion of an amount is stored. -/
def rateKey (direction : RateDirection) (amount : String) : Except ConversionError RateKey :=
  let amount := trimmed amount
  if !Amount.isNonNegative amount then .error (.invalidAmount amount)
  else match Decimal.ofText? amount with
    | none => .error (.invalidAmount amount)
    | some value => .ok ⟨direction, value.normalize⟩

/-- Store what an amount was converted into.  A failure to store it is no failure. -/
def store (converter : Converter) (direction : RateDirection) (amount : String) (money : Money) :
    Dialogue Unit :=
  if !converter.stores then .done ()
  else match rateKey direction amount with
    | .error _ => .done ()
    | .ok key => .call (.saveRate key money) fun _ => .done ()

/-- Convert into the local currency and store the result. -/
def convertAndStore (converter : Converter) (direction : RateDirection) (source amount : String)
    (scale : Nat) : Dialogue ConversionResult :=
  (convert amount source none scale).andThen fun money =>
    (converter.store direction amount money).bind fun _ => .done (.ok money)

/-- The local value of an amount of tokens. -/
def tokenToLocal (converter : Converter) (amount : String) (scale : Nat) :
    Dialogue ConversionResult :=
  converter.convertAndStore .appcToFiat tokenCode amount scale

/-- The local value of an amount of ether. -/
def etherToLocal (converter : Converter) (amount : String) (scale : Nat) :
    Dialogue ConversionResult :=
  converter.convertAndStore .ethToFiat etherCode amount scale

/-- The tokens that an amount of a currency buys. -/
def fiatToToken (currency amount : String) (scale : Nat) : Dialogue ConversionResult :=
  convert amount currency (some tokenCode) scale

/-- The local value of an amount of a currency. -/
def fiatToLocal (currency amount : String) (scale : Nat) : Dialogue ConversionResult :=
  convert amount currency none scale

/-- The scale at which one token is valued to learn the local currency. -/
def localCurrencyScale : Nat := 18

/-- The value of one token, which tells the local currency. -/
def localCurrency (converter : Converter) : Dialogue ConversionResult :=
  converter.tokenToLocal "1.0" localCurrencyScale

/-- The last known local value of an amount of tokens. -/
def storedTokenToLocal (converter : Converter) (amount : String) (scale : Nat) :
    Dialogue ConversionResult :=
  if Decimal.maxScale < scale then .done (.error (.invalidScale scale))
  else match rateKey .appcToFiat amount with
    | .error error => .done (.error error)
    | .ok key =>
      let missing : ConversionResult := .error (.notCached key.direction key.sourceAmount)
      if !converter.stores then .done missing
      else .call (.loadRate key) fun
        | .error error => .done (.error (.cache error))
        | .ok none => .done missing
        | .ok (some money) =>
          .done (.ok { money with amount := money.amount.floorToScale scale })

end Converter

end WalletTopUp
