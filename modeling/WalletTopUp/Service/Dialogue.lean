import WalletTopUp.Service.Request

/-!
# Dialogues

A computation that asks services on its way to a result.  A dialogue says which request comes next
and how each answer is gone on with; it says nothing about when an answer comes, or whether.
-/

namespace WalletTopUp

/-- A computation that asks services. -/
inductive Dialogue (α : Type) : Type where
  /-- The computation has its result. -/
  | done (result : α)
  /-- One request, and how to go on with its answer. -/
  | call (request : Request) (resume : request.Answer → Dialogue α)
  /-- Two requests under way at once.  The dialogue goes on when both have succeeded, or as soon as
  one has failed; a request that is then still open is dropped. -/
  | both (first second : Request)
      (firstFailed : first.Failure → Dialogue α) (secondFailed : second.Failure → Dialogue α)
      (resume : first.Result → second.Result → Dialogue α)

namespace Dialogue

/-- Go on with the result of a dialogue. -/
def bind (dialogue : Dialogue α) (f : α → Dialogue β) : Dialogue β :=
  match dialogue with
  | done result => f result
  | call request resume => call request fun answer => (resume answer).bind f
  | both first second firstFailed secondFailed resume =>
    both first second (fun error => (firstFailed error).bind f)
      (fun error => (secondFailed error).bind f) (fun left right => (resume left right).bind f)

instance : Monad Dialogue where
  pure := done
  bind := bind

/-- Go on with the value of a result, if it is one. -/
def andThen (dialogue : Dialogue (Except ε α)) (f : α → Dialogue (Except ε β)) :
    Dialogue (Except ε β) :=
  dialogue.bind fun
    | .error error => done (.error error)
    | .ok value => f value

/-- The result of a dialogue in a world that answers everything at once. -/
def answeredBy (server : Server) : Dialogue α → α
  | done result => result
  | call request resume => (resume (server request)).answeredBy server
  | both first second firstFailed secondFailed resume =>
    match server first, server second with
    | .error error, _ => (firstFailed error).answeredBy server
    | .ok _, .error error => (secondFailed error).answeredBy server
    | .ok left, .ok right => (resume left right).answeredBy server

/-- Every request that a dialogue may make, whatever the answers are, satisfies `p`. -/
def AllRequests (p : Request → Prop) : Dialogue α → Prop
  | done _ => True
  | call request resume => p request ∧ ∀ answer, (resume answer).AllRequests p
  | both first second firstFailed secondFailed resume =>
    p first ∧ p second ∧ (∀ error, (firstFailed error).AllRequests p)
      ∧ (∀ error, (secondFailed error).AllRequests p)
      ∧ ∀ left right, (resume left right).AllRequests p

@[simp] theorem bind_done (result : α) (f : α → Dialogue β) : (done result).bind f = f result := rfl

@[simp] theorem bind_call (request : Request) (resume : request.Answer → Dialogue α)
    (f : α → Dialogue β) :
    (call request resume).bind f = call request fun answer => (resume answer).bind f := rfl

end Dialogue

end WalletTopUp
