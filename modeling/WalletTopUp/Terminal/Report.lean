import WalletTopUp.Terminal.Command
import WalletTopUp.Terminal.Config

/-!
# Reports of the terminal

Commands and configurations, written down as JSON.
-/

namespace WalletTopUp

open Json

/-- A command of this name in a report. -/
def Command.named (name : String) (fields : List (String × Value)) : Value :=
  .object (("command", .string name) :: fields)

/-- A command in a report; a blank line is none. -/
def Command.report : Option Command → Value
  | none => named "none" []
  | some .help => named "help" [("help", .string helpText)]
  | some .quit => named "quit" []
  | some (Command.event reported) =>
    match reported with
    | .amountChanged text => named "amount" [("text", .string text)]
    | .changeCurrencyClicked => named "switch" []
    | .paymentMethodSelected id => named "method" [("id", .string id)]
    | .nextClicked submission => named "pay" [
      ("payment", submission.payment), ("return_url", .string submission.returnUrl)]
    | .redirectReturned uid details paymentData => named "redirect" [
      ("uid", .string uid), ("details", details),
      ("payment_data", Value.optional .string paymentData)]

/-- A configuration in a report. -/
def Config.report (config : Config) : Value :=
  let address (url : Url) : Value := .string url.toText
  let number (value : Nat) : Value := .number (.integer value)
  .object [
    ("broker", address config.endpoints.broker),
    ("payment", address config.endpoints.payment),
    ("partner", address config.endpoints.partner),
    ("gamification", address config.endpoints.gamification),
    ("wallet", Value.optional .string config.wallet),
    ("debounce_ms", number config.debounce),
    ("conversion_scale", number config.conversionScale),
    ("bonus_scale", number config.bonusScale),
    ("interval_secs", number config.interval),
    ("supported", .array (config.supported.map .string)),
    ("return_url", address config.returnUrl),
    ("cache_path", Value.optional .string config.cachePath)]

end WalletTopUp
