import WalletTopUp.Session.Basic
import WalletTopUp.Text.Blank
import WalletTopUp.Toml.Parser
import WalletTopUp.Url.Parser

/-!
# Configurations

What a configuration file says: where the services are, which wallet pays, and how the screen
behaves.  Sections and fields that are not known are passed over.  A file that can be read may still
be refused because of what it says.
-/

namespace WalletTopUp

/-- Where the services are. -/
structure Endpoints where
  broker : Url
  payment : Url
  partner : Url
  gamification : Url
deriving DecidableEq, Inhabited

/-- A configuration. -/
structure Config where
  endpoints : Endpoints
  /-- The address of the wallet that pays. -/
  wallet : Option String
  /-- Milliseconds that the input has to be quiet before it is converted. -/
  debounce : Nat
  conversionScale : Nat
  bonusScale : Nat
  /-- Seconds between two looks at a transaction. -/
  interval : Nat
  /-- Where the user comes back to after a redirect. -/
  returnUrl : Url
  /-- The payment methods that may be offered. -/
  supported : List String
  /-- The file in which rates are stored. -/
  cachePath : Option String
deriving DecidableEq, Inhabited

/-- Why a configuration is refused. -/
inductive ConfigFault where
  /-- More decimal places are asked for than there are. -/
  | scale (field : String) (size : Nat)
  | noInterval
  | noMethods
  | blankWallet
deriving DecidableEq, Inhabited

/-- Why there is no configuration. -/
inductive ConfigError where
  /-- There is no such file, or it cannot be read. -/
  | io
  /-- The file is no TOML document, or a field is missing or of another kind. -/
  | parse
  | validation (fault : ConfigFault)
deriving DecidableEq, Inhabited

/-- The text of a fault. -/
def ConfigFault.message : ConfigFault → String
  | .scale field size =>
    "pipeline." ++ field ++ " is " ++ toString size ++ ", the maximum is " ++
      toString Decimal.maxScale
  | .noInterval => "poller.interval_secs must be positive"
  | .noMethods => "payment.supported_methods is empty"
  | .blankWallet => "wallet.address is blank"

namespace ConfigError

/-- The word for the kind of a configuration error. -/
def kind : ConfigError → String
  | io => "Io"
  | parse => "Parse"
  | validation _ => "Validation"

/-- The text of a configuration error. -/
def message : ConfigError → String
  | io => "failed to read config file"
  | parse => "failed to parse config file"
  | validation fault => "validation error: " ++ fault.message

end ConfigError

namespace Config

/-! ## Sections -/

/-- A field of a section. -/
structure Field where
  name : String
  /-- Whether the array form may leave the field out. -/
  hasDefault : Bool := false
deriving DecidableEq, Inhabited

/-- The fields found for a section, by name. -/
abbrev Entries := List (String × Toml.Value)

/-- The fields of a section given by their values in order.  Values beyond the last field do not
count. -/
def ofItems? : List Field → List Toml.Value → Option Entries
  | [], _ => some []
  | field :: fields, [] => if field.hasDefault then ofItems? fields [] else none
  | field :: fields, item :: items =>
    (ofItems? fields items).map fun rest => (field.name, item) :: rest

/-- The fields of a section.  A time in place of a section has no field that is known. -/
def entries? (fields : List Field) : Toml.Value → Option Entries
  | .table found => some found
  | .array items => ofItems? fields items
  | .datetime _ => some []
  | _ => none

/-- A field that has to be there. -/
def required (found : Entries) (name : String) (read : Toml.Value → Option α) : Option α :=
  (List.lookup name found).bind read

/-- A field that may be missing. -/
def orElse (found : Entries) (name : String) (read : Toml.Value → Option α) (absent : α) :
    Option α :=
  match List.lookup name found with
  | none => some absent
  | some value => read value

/-! ## Fields -/

/-- A text. -/
def text? : Toml.Value → Option String
  | .string text => some text
  | _ => none

/-- A text that may be missing. -/
def optionalText? (value : Toml.Value) : Option (Option String) := (text? value).map some

/-- A natural number below a bound. -/
def natural? (bound : Nat) : Toml.Value → Option Nat
  | .integer value => if 0 ≤ value ∧ value < bound then some value.toNat else none
  | _ => none

/-- An address. -/
def url? (value : Toml.Value) : Option Url := (text? value).bind Url.parse?

/-- A list of texts. -/
def texts? : Toml.Value → Option (List String)
  | .array items => items.mapM text?
  | _ => none

/-! ## Files -/

/-- Where the services are. -/
def endpoints? (value : Toml.Value) : Option Endpoints := do
  let found ← entries? [⟨"broker", false⟩, ⟨"payment", false⟩, ⟨"partner", false⟩,
    ⟨"gamification", false⟩] value
  return {
    broker := ← required found "broker" url?
    payment := ← required found "payment" url?
    partner := ← required found "partner" url?
    gamification := ← required found "gamification" url? }

/-- The payment methods that may be offered unless told otherwise. -/
def defaultMethods : List String := ({} : Gate).supported

/-- What a document says. -/
def ofDocument? (document : Entries) : Option Config := do
  let empty := Toml.Value.table []
  let fieldsOf? (name : String) (fields : List Field) : Option Entries :=
    entries? fields ((List.lookup name document).getD empty)
  let endpoints ← required document "endpoints" endpoints?
  let wallet ← fieldsOf? "wallet" [⟨"address", false⟩]
  let address ← orElse wallet "address" optionalText? none
  let pipeline ← fieldsOf? "pipeline"
    [⟨"debounce_ms", true⟩, ⟨"conversion_scale", true⟩, ⟨"bonus_scale", true⟩]
  let debounce ← orElse pipeline "debounce_ms" (natural? (twoPow 64)) 700
  let conversionScale ← orElse pipeline "conversion_scale" (natural? (twoPow 32)) 2
  let bonusScale ← orElse pipeline "bonus_scale" (natural? (twoPow 32)) 18
  let poller ← fieldsOf? "poller" [⟨"interval_secs", true⟩]
  let interval ← orElse poller "interval_secs" (natural? (twoPow 64)) 5
  let payment ← (List.lookup "payment" document).bind
    (entries? [⟨"return_url", false⟩, ⟨"supported_methods", true⟩])
  let returnUrl ← required payment "return_url" url?
  let supported ← orElse payment "supported_methods" texts? defaultMethods
  let cache ← fieldsOf? "cache" [⟨"path", false⟩]
  let cachePath ← orElse cache "path" optionalText? none
  return {
    endpoints, wallet := address, debounce, conversionScale, bonusScale, interval, returnUrl
    supported, cachePath }

/-- What is wrong with a configuration, if anything is. -/
def fault? (config : Config) : Option ConfigFault :=
  if Decimal.maxScale < config.conversionScale then
    some (.scale "conversion_scale" config.conversionScale)
  else if Decimal.maxScale < config.bonusScale then some (.scale "bonus_scale" config.bonusScale)
  else if config.interval = 0 then some .noInterval
  else if config.supported.isEmpty then some .noMethods
  else if config.wallet.any fun address => (Text.trim address.toList).isEmpty then
    some .blankWallet
  else none

/-- The configuration of a file's content, with another wallet if one is given. -/
def ofText (content : String) (wallet : Option String) : Except ConfigError Config :=
  match (Toml.parse? content).bind ofDocument? with
  | none => .error .parse
  | some written =>
    let config := { written with wallet := wallet <|> written.wallet }
    match config.fault? with
    | some fault => .error (.validation fault)
    | none => .ok config

/-- The configuration of a file that may be missing. -/
def load (content : Option String) (wallet : Option String) : Except ConfigError Config :=
  match content with
  | none => .error .io
  | some content => ofText content wallet

/-- How a screen with this configuration works. -/
def settings (config : Config) (package : String) : SessionSettings where
  pipeline := {
    converter := ⟨true⟩
    conversionScale := config.conversionScale
    bonusScale := config.bonusScale
    window := config.debounce
    package }
  gate := ⟨config.supported⟩
  pollPeriod := config.interval * 1000

end Config

end WalletTopUp
