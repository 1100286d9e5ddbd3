import WalletTopUp.Screen.Effect
import WalletTopUp.Screen.Gate

/-!
# Reports of a screen

The state of a screen and what it tells the presentation layer, written down as JSON.
-/

namespace WalletTopUp

open Json

/-- An amount value in a report. -/
def AmountValue.report : AmountValue → Value
  | unknown => .string "unknown"
  | zero => .string "zero"
  | value amount => .object [("value", decimal amount)]

/-- An entry in a report. -/
def AmountEntry.report (entry : AmountEntry) : Value := .object [
  ("raw", .string entry.rawText),
  ("selected", .string entry.selected.name),
  ("fiat", entry.fiat.report),
  ("token", entry.token.report),
  ("code", .string entry.currency.code),
  ("symbol", .string entry.currency.symbol)]

/-- The word for how an amount relates to its limits. -/
def Bounds.name : Bounds → String
  | within => "ok"
  | tooLow => "too_low"
  | tooHigh => "too_high"

/-- How the amount relates to its limits, by its word. -/
def Bounds.ofName? : String → Option Bounds
  | "ok" => some within
  | "too_low" => some tooLow
  | "too_high" => some tooHigh
  | _ => none

/-- A screen state in a report. -/
def ScreenState.report (state : ScreenState) : Value := .object [
  ("entry", state.entry.report),
  ("methods", .array (state.methods.map fun method => .string method.id)),
  ("selected_method", Value.optional (fun method => .string method.id) state.selectedMethod),
  ("limits", Value.optional (fun limits =>
    .array [decimal limits.min.amount, decimal limits.max.amount]) state.limits),
  ("bounds", Value.optional (fun bounds => .string bounds.name) state.bounds),
  ("bonus", Value.optional encode state.bonus),
  ("settled", .bool state.settled)]

/-- The check of an amount against its limits in a report. -/
def Gate.reportCheck (check : Option (Bounds × EffectiveLimits)) : Value :=
  Value.optional (fun (bounds, limits) => .object [
    ("bounds", .string bounds.name),
    ("min", decimal limits.min),
    ("max", decimal limits.max),
    ("currency", .string limits.currency),
    ("warning", Value.optional .string (limits.warning bounds))]) check

namespace Effect

/-- The word for a kind of effect. -/
def kind : Effect → String
  | setupUi _ _ => "SetupUi"
  | setSubmitEnabled _ => "SetSubmitEnabled"
  | conversionValue _ => "ConversionValue"
  | currencySwitched _ => "CurrencySwitched"
  | showMinValueWarning _ => "ShowMinValueWarning"
  | showMaxValueWarning _ => "ShowMaxValueWarning"
  | hideValueWarning => "HideValueWarning"
  | mainValueValid _ => "MainValueValid"
  | showBonus _ _ => "ShowBonus"
  | hideBonus => "HideBonus"
  | showLoading => "ShowLoading"
  | redirect _ _ => "Redirect"
  | paymentFinished _ _ => "PaymentFinished"
  | paymentFailed _ => "PaymentFailed"

/-- What an effect carries. -/
def fields : Effect → List (String × Value)
  | setupUi methods currency =>
    [("methods", .array (methods.map encode)), ("code", .string currency.code),
      ("symbol", .string currency.symbol)]
  | setSubmitEnabled enabled => [("enabled", .bool enabled)]
  | conversionValue entry => [("entry", entry.report)]
  | currencySwitched side => [("side", .string side.name)]
  | showMinValueWarning bound => [("bound", .string bound)]
  | showMaxValueWarning bound => [("bound", .string bound)]
  | hideValueWarning => []
  | mainValueValid valid => [("valid", .bool valid)]
  | showBonus amount currency => [("amount", decimal amount), ("currency", .string currency)]
  | hideBonus => []
  | showLoading => []
  | redirect uid action => [("uid", Value.optional .string uid), ("action", encode action)]
  | paymentFinished uid status => [("uid", .string uid), ("status", encode status)]
  | paymentFailed message => [("message", .string message)]

/-- An effect in a report: its kind, what it carries, and its text. -/
def report (effect : Effect) : Value :=
  .object (("effect", .string effect.kind) :: effect.fields ++ [("text", .string effect.text)])

end Effect

end WalletTopUp
