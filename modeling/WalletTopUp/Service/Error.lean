import WalletTopUp.Http.Status

/-!
# Service errors

Why a service gave no answer.
-/

namespace WalletTopUp

/-- Why a remote call gave no answer. -/
inductive ClientError where
  /-- There was no complete response. -/
  | http (detail : String)
  /-- The response reports a failure. -/
  | api (status : Nat) (body : String)
  /-- The response is not of the expected form. -/
  | json (detail : String)
  /-- The address of the call is no URL. -/
  | url (detail : String)
deriving DecidableEq, Inhabited

/-- Why a service gave no answer. -/
inductive ServiceError where
  /-- The remote call failed. -/
  | client (error : ClientError)
  /-- There is no wallet to act for. -/
  | noWallet
  /-- The service cannot be reached or refuses to answer. -/
  | unavailable (reason : String)
deriving DecidableEq, Inhabited

/-- Why a rate could not be stored or read. -/
inductive CacheError where
  /-- The file could not be read or written. -/
  | io (detail : String)
  /-- The file is no list of records. -/
  | json (detail : String)
deriving DecidableEq, Inhabited

/-! ## Kinds -/

/-- The word for the kind of a client error. -/
def ClientError.kind : ClientError → String
  | .http _ => "Http"
  | .api _ _ => "Api"
  | .json _ => "Json"
  | .url _ => "Url"

/-- The word for the kind of a service error. -/
def ServiceError.kind : ServiceError → String
  | .client error => error.kind
  | .noWallet => "NoWallet"
  | .unavailable _ => "Unavailable"

/-- The word for the kind of a cache error. -/
def CacheError.kind : CacheError → String
  | .io _ => "Io"
  | .json _ => "Json"

/-! ## Texts -/

/-- The text of a client error. -/
def ClientError.message : ClientError → String
  | .http detail => "http error: " ++ detail
  | .api status body => "api error: status " ++ Http.statusText status ++ ", body: " ++ body
  | .json detail => "json error: " ++ detail
  | .url detail => "invalid url: " ++ detail

/-- The text of a service error. -/
def ServiceError.message : ServiceError → String
  | .client error => error.message
  | .noWallet => "no default wallet available"
  | .unavailable reason => "service unavailable: " ++ reason

/-- The text of a cache error. -/
def CacheError.message : CacheError → String
  | .io detail => "rate cache io error: " ++ detail
  | .json detail => "rate cache is not valid json: " ++ detail

end WalletTopUp
