import WalletTopUp.Screen.State

/-!
# Effects on a screen

What the program tells the presentation layer to show, and the line of text that a terminal shows
for it.
-/

namespace WalletTopUp

/-- An instruction to the presentation layer. -/
inductive Effect where
  | setupUi (methods : List PaymentMethod) (currency : LocalCurrency)
  | setSubmitEnabled (enabled : Bool)
  /-- The derived side of the amount has settled. -/
  | conversionValue (entry : AmountEntry)
  | currencySwitched (side : Side)
  | showMinValueWarning (bound : String)
  | showMaxValueWarning (bound : String)
  | hideValueWarning
  /-- Whether the amount is within the limits. -/
  | mainValueValid (valid : Bool)
  | showBonus (amount : Decimal) (currency : String)
  | hideBonus
  | showLoading
  | redirect (uid : Option String) (action : PaymentAction)
  | paymentFinished (uid : String) (status : TransactionStatus)
  | paymentFailed (message : String)
deriving DecidableEq, Inhabited

namespace Effect

/-- The word for a truth value. -/
def flagText (flag : Bool) : String := if flag then "true" else "false"

/-- The line that a terminal shows for an effect. -/
def text : Effect → String
  | setupUi methods currency =>
    let ids := String.intercalate ", " (methods.map PaymentMethod.id)
    "setup: methods [" ++ ids ++ "], currency " ++ currency.code
  | setSubmitEnabled enabled => "submit enabled: " ++ flagText enabled
  | conversionValue entry =>
    "amount: " ++ entry.fiat.display ++ " " ++ entry.currency.code ++ " = "
      ++ entry.token.display ++ " APPC"
  | currencySwitched side => "typing in " ++ side.name
  | showMinValueWarning bound => "minimum top-up is " ++ bound
  | showMaxValueWarning bound => "maximum top-up is " ++ bound
  | hideValueWarning => "amount within limits"
  | mainValueValid valid => "amount valid: " ++ flagText valid
  | showBonus amount currency => "bonus: " ++ amount.toText ++ " " ++ currency
  | hideBonus => "no bonus"
  | showLoading => "processing payment..."
  | redirect _ action => "continue payment at " ++ action.url.getD "<provider component>"
  | paymentFinished uid status => "transaction " ++ uid ++ " finished: " ++ status.display
  | paymentFailed message => "payment failed: " ++ message

end Effect

end WalletTopUp
