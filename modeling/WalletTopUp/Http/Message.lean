import WalletTopUp.Http.Status
import WalletTopUp.Json.Record
import WalletTopUp.Service.Error
import WalletTopUp.Url.Parser

/-!
# Messages

What is sent to a web service, and what is made of what comes back.
-/

namespace WalletTopUp

namespace Http

/-- What a message asks a service to do. -/
inductive Method where
  | get
  | post
  | patch
deriving DecidableEq, Inhabited

/-- The word for a method. -/
def Method.name : Method → String
  | get => "GET"
  | post => "POST"
  | patch => "PATCH"

/-- A message to a web service. -/
structure Message where
  method : Method
  url : Url
  body : Option Json.Value := none
deriving Inhabited, BEq

/-- The type of a body, if there is one. -/
def Message.contentType (message : Message) : Option String :=
  message.body.map fun _ => "application/json"

/-- What comes back. -/
inductive Reception where
  /-- Nobody listens. -/
  | refused
  /-- The connection ends before there is a whole response. -/
  | cutOff
  | response (status : Nat) (body : List UInt8)
deriving DecidableEq, Inhabited

/-- Whether a status only announces another one. -/
def isInterim (status : Nat) : Bool := 100 ≤ status && status < 200 && status != 101

/-- Whether a response of this status has a body. -/
def hasBody (status : Nat) : Bool := status != 204 && status != 304 && status != 101

/-- The status and the body of a whole response. -/
def Reception.response? : Reception → Option (Nat × List UInt8)
  | response status body =>
    if isInterim status || status < 100 || 999 < status then none
    else some (status, if hasBody status then body else [])
  | _ => none

/-- The text that is read as JSON.  Bytes that stand for no character are read as a half of a
surrogate pair: they spoil the string that they stand in. -/
def jsonChars (bytes : List UInt8) : List Char :=
  (Text.characters bytes).flatMap fun
    | some c => [c]
    | none => ['\\', 'u', 'd', 'c', '0', '0']

/-- A message that had no response. -/
def Message.lost (message : Message) : ClientError :=
  .http ("error sending request for url (" ++ message.url.toText ++ ")")

/-- The body of a response that reports success. -/
def successBody (message : Message) (reception : Reception) : Except ClientError (List UInt8) :=
  match reception.response? with
  | none => .error message.lost
  | some (status, body) =>
    if isSuccess status then .ok body
    else .error (.api status (String.ofList (Text.ofMarkedBytes body)))

/-- What a response says. -/
def read (parse : Json.Tree → Option α) (message : Message) (reception : Reception) :
    Except ClientError α :=
  match successBody message reception with
  | .error error => .error error
  | .ok body =>
    match (Json.parseChars? (jsonChars body)).bind parse with
    | none => .error (.json "the response is not of the expected form")
    | some result => .ok result

/-- Whether a response reports success. -/
def confirm (message : Message) (reception : Reception) : Except ClientError Unit :=
  (successBody message reception).map fun _ => ()

end Http

end WalletTopUp
