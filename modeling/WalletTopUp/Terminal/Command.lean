import WalletTopUp.Session.Basic
import WalletTopUp.Text.Quoted
import WalletTopUp.Url.Parser

/-!
# Commands

The lines that stand in for the controls of a screen.  A line begins with a word; what follows the
first blank behind it is its argument.
-/

namespace WalletTopUp

/-- A command. -/
inductive Command where
  /-- Report an event to the session. -/
  | event (event : SessionEvent)
  | help
  | quit
deriving Inhabited, BEq

/-- Why a line is no command. -/
inductive CommandError where
  | unknown (word : String)
  | missing (argument : String)
  | json
deriving DecidableEq, Inhabited

namespace CommandError

/-- The word for the kind of a command error. -/
def kind : CommandError → String
  | unknown _ => "Unknown"
  | missing _ => "MissingArgument"
  | json => "Json"

/-- The text of a command error. -/
def message : CommandError → String
  | unknown word => "unknown command " ++ Text.quote word ++ ", type \x60help\x60"
  | missing argument => "missing " ++ argument
  | json => "invalid json: the text is no JSON value"

end CommandError

namespace Command

/-- The lines that explain the commands. -/
def helpLines : List String := [
  "commands:",
  "  amount <text>              type into the amount field (empty clears it)",
  "  switch                     swap the typed side between fiat and APPC",
  "  method <id>                select a payment method",
  "  pay [payload json]         submit the top-up",
  "  redirect <uid> [json]      finish a redirect or 3DS challenge",
  "  help                       show this message",
  "  quit                       tear down the session and exit"]

/-- The text that explains the commands. -/
def helpText : String := "\n".intercalate helpLines

/-- The text up to the first blank and the text behind it. -/
def cutAtBlank (text : List Char) : List Char × List Char :=
  (text.takeWhile (· != ' '), (text.dropWhile (· != ' ')).drop 1)

/-- The word and the argument of a line.  A word without an argument has no blanks behind it. -/
def wordAndRest (line : List Char) : List Char × List Char :=
  let started := Text.trimStart line
  if started.contains ' ' then cutAtBlank started else (Text.trim line, [])

/-- The JSON value of an argument; no argument is the empty object. -/
def payload (argument : List Char) : Except CommandError Json.Value :=
  let argument := Text.trim argument
  if argument.isEmpty then .ok (.object [])
  else match Json.parseValue? (String.ofList argument) with
    | none => .error .json
    | some value => .ok value

/-- The command of a word and its argument. -/
def ofWord (returnUrl : Url) (word : String) (argument : List Char) :
    Except CommandError Command :=
  match word with
  | "amount" => .ok (.event (.amountChanged (String.ofList argument)))
  | "switch" => .ok (.event .changeCurrencyClicked)
  | "method" =>
    let id := Text.trim argument
    if id.isEmpty then .error (.missing "payment method id")
    else .ok (.event (.paymentMethodSelected (String.ofList id)))
  | "pay" =>
    (payload argument).map fun payment => .event (.nextClicked ⟨payment, returnUrl.toText⟩)
  | "redirect" =>
    let (uid, details) := cutAtBlank (Text.trim argument)
    if uid.isEmpty then .error (.missing "transaction uid")
    else (payload details).map fun details =>
      .event (.redirectReturned (String.ofList uid) details none)
  | "help" => .ok .help
  | "quit" => .ok .quit
  | "exit" => .ok .quit
  | other => .error (.unknown other)

/-- Whether a character ends a line. -/
def isLineEnd (c : Char) : Bool := c == '\r' || c == '\n'

/-- The command of a line.  A blank line is no command and no error. -/
def parse (returnUrl : Url) (line : String) : Except CommandError (Option Command) :=
  let line := Text.trimEndBy isLineEnd line.toList
  if (Text.trim line).isEmpty then .ok none
  else
    let (word, argument) := wordAndRest line
    (ofWord returnUrl (String.ofList word) argument).map some

end Command

end WalletTopUp
