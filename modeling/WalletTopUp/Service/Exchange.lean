import WalletTopUp.Service.Dialogue

/-!
# Exchanges

A dialogue under way.  A request is first put out as a call with a number of its own; when the call
is answered the dialogue goes on.  Nothing else ever moves an exchange, so whoever runs it decides
about the order and the time of the answers.
-/

namespace WalletTopUp

/-- The number of a call, counted from the start of a run. -/
abbrev CallId := Nat

/-- How far one of two requests has got. -/
inductive Leg (request : Request) : Type where
  | unasked
  | asked (call : CallId)
  | succeeded (result : request.Result)

/-- The open call of a request, if there is one. -/
def Leg.open? {request : Request} : Leg request → Option (CallId × Request)
  | asked call => some (call, request)
  | _ => none

/-- Whether the call of this number is the open one. -/
def Leg.isOpen {request : Request} (call : CallId) : Leg request → Bool
  | asked id => id == call
  | _ => false

/-- A dialogue under way. -/
inductive Exchange (α : Type) : Type where
  /-- The dialogue's next part has not been begun. -/
  | ready (next : Dialogue α)
  /-- A call is open. -/
  | waiting (call : CallId) (request : Request) (resume : request.Answer → Dialogue α)
  /-- Two requests are under way. -/
  | pair (first second : Request) (left : Leg first) (right : Leg second)
      (firstFailed : first.Failure → Dialogue α) (secondFailed : second.Failure → Dialogue α)
      (resume : first.Result → second.Result → Dialogue α)

namespace Exchange

/-- The request that the exchange puts out next, and the exchange once its call has a number. -/
def ask? : Exchange α → Option (Request × (CallId → Exchange α))
  | ready (.call request resume) => some (request, fun call => waiting call request resume)
  | ready (.both first second firstFailed secondFailed resume) =>
    some (first, fun call =>
      pair first second (.asked call) .unasked firstFailed secondFailed resume)
  | pair first second left .unasked firstFailed secondFailed resume =>
    some (second, fun call =>
      pair first second left (.asked call) firstFailed secondFailed resume)
  | _ => none

/-- Go on with two requests if both have succeeded. -/
def joinLegs (first second : Request) (left : Leg first) (right : Leg second)
    (firstFailed : first.Failure → Dialogue α) (secondFailed : second.Failure → Dialogue α)
    (resume : first.Result → second.Result → Dialogue α) : Exchange α :=
  match left, right with
  | .succeeded a, .succeeded b => ready (resume a b)
  | left, right => pair first second left right firstFailed secondFailed resume

/-- The exchange after the call of this number is answered. -/
def hear (call : CallId) (server : Server) : Exchange α → Exchange α
  | waiting id request resume =>
    if id == call then ready (resume (server request)) else waiting id request resume
  | pair first second left right firstFailed secondFailed resume =>
    if left.isOpen call then
      match server first with
      | .error error => ready (firstFailed error)
      | .ok result =>
        joinLegs first second (.succeeded result) right firstFailed secondFailed resume
    else if right.isOpen call then
      match server second with
      | .error error => ready (secondFailed error)
      | .ok result =>
        joinLegs first second left (.succeeded result) firstFailed secondFailed resume
    else pair first second left right firstFailed secondFailed resume
  | ready next => ready next

/-- The result, once there is nothing left to ask. -/
def result? : Exchange α → Option α
  | ready (.done result) => some result
  | _ => none

/-- The calls that are neither answered nor dropped. -/
def openCalls : Exchange α → List (CallId × Request)
  | waiting call request _ => [(call, request)]
  | pair _ _ left right _ _ _ => left.open?.toList ++ right.open?.toList
  | ready _ => []

/-- An exchange that has its result asks nothing. -/
theorem ask?_eq_none_of_result? {exchange : Exchange α} {result : α}
    (h : exchange.result? = some result) : exchange.ask? = none := by
  match exchange with
  | ready (.done _) => rfl
  | ready (.call _ _) => simp [result?] at h
  | ready (.both _ _ _ _ _) => simp [result?] at h
  | waiting _ _ _ => simp [result?] at h
  | pair _ _ _ _ _ _ _ => simp [result?] at h

end Exchange

end WalletTopUp
