import WalletTopUp.Proofs.Schedule.Moves
import WalletTopUp.Schedule.Systems

/-!
# The course of a dialogue

How far a dialogue has got decides which requests it has made and which answers it has heard
(`Dialogue.Course`).  Every run of a dialogue takes such a course, in whatever order and after
whatever time its calls are answered, and whether they are answered at all
(`DialogueRun.course_of_runs`).  The answer to a call that has been dropped is not heard.
-/

namespace WalletTopUp

/-- An answer together with the request that it answers. -/
structure Answered where
  request : Request
  answer : request.Answer

namespace Leg

variable {request : Request}

/-- The requests that have been made for one of two requests. -/
def requests : Leg request → List Request
  | unasked => []
  | asked _ => [request]
  | succeeded _ => [request]

/-- What has been heard for one of two requests that has not failed. -/
def heard : Leg request → List Answered
  | succeeded result => [⟨request, .ok result⟩]
  | _ => []

end Leg

/-- What an exchange hears of an answer: nothing, unless the call is open. -/
def Exchange.answered? {α : Type} (call : CallId) (server : Server) (exchange : Exchange α) :
    Option Answered :=
  (exchange.openCalls.lookup call).map fun request => ⟨request, server request⟩

namespace Dialogue

variable {α : Type} {dialogue : Dialogue α} {requests : List Request} {heard : List Answered}
  {exchange : Exchange α}

/-- The requests that a dialogue has made and the answers that it has heard, both in order, when it
has got to an exchange. -/
inductive Course : Dialogue α → List Request → List Answered → Exchange α → Prop where
  /-- Nothing has been asked yet. -/
  | here {dialogue : Dialogue α} : Course dialogue [] [] (.ready dialogue)
  | waiting {request : Request} {resume : request.Answer → Dialogue α} {call : CallId} :
      Course (.call request resume) [request] [] (.waiting call request resume)
  | call {request : Request} {resume : request.Answer → Dialogue α} {answer : request.Answer}
      {requests : List Request} {heard : List Answered} {exchange : Exchange α}
      (rest : Course (resume answer) requests heard exchange) :
      Course (.call request resume) (request :: requests) (⟨request, answer⟩ :: heard) exchange
  /-- Two requests are under way, and one of them at least has not been answered. -/
  | pair {first second : Request} (left : Leg first) (right : Leg second)
      {firstFailed : first.Failure → Dialogue α} {secondFailed : second.Failure → Dialogue α}
      {resume : first.Result → second.Result → Dialogue α}
      (unanswered : left.heard = [] ∨ right.heard = []) :
      Course (.both first second firstFailed secondFailed resume)
        (left.requests ++ right.requests) (left.heard ++ right.heard)
        (.pair first second left right firstFailed secondFailed resume)
  /-- The first of two requests has failed, whatever has become of the second one before. -/
  | firstFailed {first second : Request} {right : Leg second}
      {firstFailed : first.Failure → Dialogue α} {secondFailed : second.Failure → Dialogue α}
      {resume : first.Result → second.Result → Dialogue α} {error : first.Failure}
      {requests : List Request} {heard : List Answered} {exchange : Exchange α}
      (rest : Course (firstFailed error) requests heard exchange) :
      Course (.both first second firstFailed secondFailed resume)
        (first :: (right.requests ++ requests)) (right.heard ++ ⟨first, .error error⟩ :: heard)
        exchange
  | secondFailed {first second : Request} {left : Leg first}
      {firstFailed : first.Failure → Dialogue α} {secondFailed : second.Failure → Dialogue α}
      {resume : first.Result → second.Result → Dialogue α} {error : second.Failure}
      {requests : List Request} {heard : List Answered} {exchange : Exchange α}
      (rest : Course (secondFailed error) requests heard exchange) :
      Course (.both first second firstFailed secondFailed resume)
        (left.requests ++ second :: requests) (left.heard ++ ⟨second, .error error⟩ :: heard)
        exchange
  /-- Both requests have succeeded, in one order or the other. -/
  | both {first second : Request} {firstFailed : first.Failure → Dialogue α}
      {secondFailed : second.Failure → Dialogue α}
      {resume : first.Result → second.Result → Dialogue α} {one : first.Result}
      {other : second.Result} {requests : List Request} {heard : List Answered}
      {exchange : Exchange α} (both : List Answered)
      (successes : both.Perm [⟨first, .ok one⟩, ⟨second, .ok other⟩])
      (rest : Course (resume one other) requests heard exchange) :
      Course (.both first second firstFailed secondFailed resume)
        (first :: second :: requests) (both ++ heard) exchange

/-- A dialogue that makes a request stays on its course. -/
theorem Course.ask {request : Request} {resume : CallId → Exchange α}
    (course : Course dialogue requests heard exchange)
    (asks : exchange.ask? = some (request, resume))
    (call : CallId) :
    Course dialogue (requests ++ [request]) heard (resume call) := by
  -- Only where the dialogue has got to is anything asked, so the request comes last all the way up.
  induction course with
  | @here dialogue =>
      cases dialogue with
      | done _ => cases asks
      | call _ _ =>
          cases asks
          exact .waiting
      | both _ _ _ _ _ =>
          cases asks
          exact .pair (.asked call) .unasked (.inr rfl)
  | waiting => cases asks
  | call _ ih => exact .call (ih asks)
  | @pair _ _ left right _ _ _ _ =>
      cases right with
      | unasked =>
          cases asks
          rw [Leg.requests, List.append_nil]
          exact .pair left (.asked call) (.inr rfl)
      | asked _ | succeeded _ => cases left <;> cases asks
  | firstFailed _ ih =>
      rw [List.cons_append, List.append_assoc]
      exact .firstFailed (ih asks)
  | secondFailed _ ih =>
      rw [List.append_assoc]
      exact .secondFailed (ih asks)
  | both both successes _ ih => exact .both both successes (ih asks)

/-- The course of two legs when the first is answered last. -/
theorem Course.first {first second : Request} {right : Leg second}
    {firstFailed : first.Failure → Dialogue α} {secondFailed : second.Failure → Dialogue α}
    {resume : first.Result → second.Result → Dialogue α} (answer : first.Answer) :
    Course (.both first second firstFailed secondFailed resume)
      (first :: right.requests) (right.heard ++ [⟨first, answer⟩])
      (match answer with
        | .error error => .ready (firstFailed error)
        | .ok result =>
          .joinLegs first second (.succeeded result) right firstFailed secondFailed resume) := by
  cases answer with
  | error error => exact List.append_nil right.requests ▸ .firstFailed .here
  | ok result =>
      cases right with
      | unasked => exact .pair (.succeeded result) .unasked (.inr rfl)
      | asked call => exact .pair (.succeeded result) (.asked call) (.inr rfl)
      | succeeded other =>
          exact .both [⟨second, .ok other⟩, ⟨first, .ok result⟩] (.swap _ _ _) .here

/-- The course of two legs when the second is answered last. -/
theorem Course.second {first second : Request} {left : Leg first}
    {firstFailed : first.Failure → Dialogue α} {secondFailed : second.Failure → Dialogue α}
    {resume : first.Result → second.Result → Dialogue α} (answer : second.Answer) :
    Course (.both first second firstFailed secondFailed resume)
      (left.requests ++ [second]) (left.heard ++ [⟨second, answer⟩])
      (match answer with
        | .error error => .ready (secondFailed error)
        | .ok result =>
          .joinLegs first second left (.succeeded result) firstFailed secondFailed resume) := by
  cases answer with
  | error error => exact .secondFailed .here
  | ok result =>
      cases left with
      | unasked => exact .pair .unasked (.succeeded result) (.inl rfl)
      | asked call => exact .pair (.asked call) (.succeeded result) (.inl rfl)
      | succeeded other =>
          exact .both [⟨first, .ok other⟩, ⟨second, .ok result⟩] (.refl _) .here

end Dialogue

namespace Exchange

variable {α : Type} {call : CallId} {server : Server}

/-- A single call is answered by its own number alone. -/
theorem answered?_waiting {id : CallId} {request : Request}
    {resume : request.Answer → Dialogue α} :
    (waiting id request resume).answered? call server
      = if id == call then some ⟨request, server request⟩ else none := by
  simp only [answered?, openCalls, List.lookup_cons, List.lookup_nil, BEq.comm (a := call)]
  split <;> simp_all

/-- Of two legs the one that waits for this call is answered. -/
theorem answered?_pair {first second : Request} {left : Leg first} {right : Leg second}
    {firstFailed : first.Failure → Dialogue α} {secondFailed : second.Failure → Dialogue α}
    {resume : first.Result → second.Result → Dialogue α} :
    (pair first second left right firstFailed secondFailed resume).answered? call server
      = if left.isOpen call then some ⟨first, server first⟩
        else if right.isOpen call then some ⟨second, server second⟩
        else none := by
  have looked : ∀ {request : Request} (leg : Leg request) (rest : List (CallId × Request)),
      (leg.open?.toList ++ rest).lookup call
        = if leg.isOpen call then some request else rest.lookup call := by
    intro request leg rest
    cases leg with
    | unasked | succeeded _ => rfl
    | asked id =>
      simp only [Leg.open?, Leg.isOpen, Option.toList_some, List.singleton_append, List.lookup_cons,
        BEq.comm (a := call)]
      split <;> simp_all
  rw [answered?, openCalls, looked, ← List.append_nil right.open?.toList, looked]
  split
  · rfl
  · split <;> rfl

/-- An exchange that makes a request has one more open call. -/
theorem openCalls_ask {exchange : Exchange α} {request : Request} {resume : CallId → Exchange α}
    (asks : exchange.ask? = some (request, resume)) (call : CallId) :
    (resume call).openCalls = exchange.openCalls ++ [(call, request)] := by
  match exchange with
  | .ready (.call _ _) | .ready (.both _ _ _ _ _) =>
      cases asks
      rfl
  | .pair _ _ left .unasked _ _ _ =>
      cases asks
      cases left <;> rfl
  | .ready (.done _) | .waiting _ _ _ | .pair _ _ _ (.asked _) _ _ _
  | .pair _ _ _ (.succeeded _) _ _ _ => cases asks

/-- The open calls of two joined legs are those that each has open. -/
theorem openCalls_joinLegs {first second : Request} {left : Leg first} {right : Leg second}
    {firstFailed : first.Failure → Dialogue α} {secondFailed : second.Failure → Dialogue α}
    {resume : first.Result → second.Result → Dialogue α} :
    (joinLegs first second left right firstFailed secondFailed resume).openCalls
      = left.open?.toList ++ right.open?.toList := by
  cases left <;> cases right <;> rfl

/-- Hearing an answer opens no call. -/
theorem openCalls_hear (exchange : Exchange α) (call : CallId) (server : Server) :
    (exchange.hear call server).openCalls ⊆ exchange.openCalls := by
  cases exchange with
  | ready _ => exact List.Subset.refl _
  | waiting id request resume =>
      rw [hear]
      split
      · exact List.nil_subset _
      · exact List.Subset.refl _
  | pair first second left right _ _ _ =>
      rw [hear]
      split
      · split
        · exact List.nil_subset _
        · rw [openCalls_joinLegs]
          exact List.subset_append_right _ _
      · split
        · split
          · exact List.nil_subset _
          · rw [openCalls_joinLegs]
            exact List.append_subset.mpr ⟨List.subset_append_left _ _, List.nil_subset _⟩
        · exact List.Subset.refl _

/-- An exchange that makes a request has no result yet, and none without an answer. -/
theorem result?_ask {exchange : Exchange α} {request : Request} {resume : CallId → Exchange α}
    (asks : exchange.ask? = some (request, resume)) (call : CallId) :
    exchange.result? = none ∧ (resume call).result? = none := by
  match exchange with
  | .ready (.call _ _) | .ready (.both _ _ _ _ _) | .pair _ _ _ .unasked _ _ _ =>
      cases asks
      exact ⟨rfl, rfl⟩
  | .ready (.done _) | .waiting _ _ _ | .pair _ _ _ (.asked _) _ _ _
  | .pair _ _ _ (.succeeded _) _ _ _ => cases asks

/-- An exchange that has its result hears nothing more. -/
theorem hear_of_result? {exchange : Exchange α} {result : α}
    (ended : exchange.result? = some result) (call : CallId) (server : Server) :
    exchange.hear call server = exchange := by
  match exchange with
  | .ready _ => rfl
  | .waiting _ _ _ | .pair _ _ _ _ _ _ _ => cases ended

end Exchange

namespace Dialogue

variable {α : Type} {dialogue : Dialogue α} {requests : List Request} {heard : List Answered}
  {exchange : Exchange α}

/-- A dialogue that hears an answer stays on its course. -/
theorem Course.hear (call : CallId) (server : Server)
    (course : Course dialogue requests heard exchange) :
    Course dialogue requests (heard ++ (exchange.answered? call server).toList)
      (exchange.hear call server) := by
  induction course with
  | here => exact .here
  | waiting =>
      rw [Exchange.answered?_waiting, Exchange.hear]
      split
      · exact .call .here
      · exact .waiting
  | call _ ih => exact .call ih
  | @pair first second left right _ _ _ unanswered =>
      rw [Exchange.answered?_pair, Exchange.hear]
      split
      · next isOpen =>
          cases left with
          | asked _ => exact .first (server first)
          | unasked | succeeded _ => cases isOpen
      · split
        · next isOpen =>
            cases right with
            | asked id =>
                have unheard : left.heard ++ (Leg.asked id : Leg second).heard = left.heard :=
                  List.append_nil _
                rw [unheard]
                exact .second (server second)
            | unasked | succeeded _ => cases isOpen
        · rw [Option.toList_none, List.append_nil]
          exact .pair left right unanswered
  | firstFailed _ ih =>
      rw [List.append_assoc]
      exact .firstFailed ih
  | secondFailed _ ih =>
      rw [List.append_assoc]
      exact .secondFailed ih
  | both both successes _ ih =>
      rw [List.append_assoc]
      exact .both both successes ih

/-- What a dialogue has asked for is among what it may ask for. -/
theorem Course.allRequests {p : Request → Prop}
    (course : Course dialogue requests heard exchange)
    (all : dialogue.AllRequests p) : ∀ request ∈ requests, p request := by
  have leg : ∀ {request : Request} (leg : Leg request), p request →
      ∀ made ∈ leg.requests, p made := by
    intro request leg holds made member
    cases leg with
    | unasked => cases member
    | asked _ | succeeded _ => exact List.mem_singleton.mp member ▸ holds
  induction course with
  | here => exact fun request member => absurd member List.not_mem_nil
  | waiting => exact fun request member => List.mem_singleton.mp member ▸ all.1
  | call _ ih => exact List.forall_mem_cons.mpr ⟨all.1, ih (all.2 _)⟩
  | pair left right _ =>
      exact List.forall_mem_append.mpr ⟨leg left all.1, leg right all.2.1⟩
  | @firstFailed _ _ right _ _ _ _ _ _ _ _ ih =>
      refine List.forall_mem_cons.mpr ⟨all.1, List.forall_mem_append.mpr ⟨leg right all.2.1, ?_⟩⟩
      exact ih (all.2.2.1 _)
  | @secondFailed _ _ left _ _ _ _ _ _ _ _ ih =>
      refine List.forall_mem_append.mpr ⟨leg left all.1, List.forall_mem_cons.mpr ⟨all.2.1, ?_⟩⟩
      exact ih (all.2.2.2.1 _)
  | both _ _ _ ih =>
      refine List.forall_mem_cons.mpr ⟨all.1, List.forall_mem_cons.mpr ⟨all.2.1, ?_⟩⟩
      exact ih (all.2.2.2.2 _ _)

end Dialogue

/-! ## Runs -/

namespace DialogueRun

variable {α : Type} {dialogue : Dialogue α}

/-- What has happened to a dialogue, the latest first. -/
abbrev History (α : Type) : Type := List (Moment (DialogueRun α) (Schedule.System.Move Unit))

/-- The answer that a dialogue hears in a moment. -/
def answered? (moment : Moment (DialogueRun α) (Schedule.System.Move Unit)) : Option Answered :=
  match moment.event with
  | .answer call server => moment.before.exchange.answered? call server
  | _ => none

/-- The answers that a dialogue has heard, in order. -/
def heard (past : History α) : List Answered := (past.filterMap answered?).reverse

/-- The requests that a dialogue has made, in order. -/
def requests (run : DialogueRun α) : List Request := run.calls.map Call.request

/-- A run of a dialogue that begins at some instant, with everything that has happened to it. -/
def Runs (dialogue : Dialogue α) (past : History α) (run : DialogueRun α) : Prop :=
  ∃ begun,
    Reaches (DialogueRun.system α).move { now := begun, exchange := .ready dialogue } past run

/-- **Every run of a dialogue takes its course.** -/
theorem course_of_runs {past : History α} {run : DialogueRun α} (runs : Runs dialogue past run) :
    dialogue.Course run.requests (heard past) run.exchange := by
  obtain ⟨begun, reached⟩ := runs
  induction reached with
  | start => exact .here
  | @step past middle next move _ moved ih =>
      cases move with
      | step task =>
          obtain ⟨⟨request, resume⟩, asks, rfl⟩ := Option.map_eq_some_iff.mp moved
          rw [requests, List.map_append]
          exact ih.ask asks _
      | answer call server =>
          obtain rfl := Option.some.inj moved
          have new : heard (⟨middle, .answer call server⟩ :: past)
              = heard past ++ (middle.exchange.answered? call server).toList :=
            reverse_filterMap_cons answered? _ past
          rw [new]
          exact ih.hear call server
      | advance milliseconds =>
          obtain rfl := Option.some.inj moved
          exact ih

end DialogueRun

end WalletTopUp
