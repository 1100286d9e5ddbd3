import WalletTopUp.Service.Exchange

/-!
# What an exchange has learned

The result of a dialogue rests on answers to its requests.  `Dialogue.Leads` says that a dialogue
goes on with another one once certain answers are known, and `Exchange.Follows` says that an
exchange under way is where the answers it has heard have led it.  Both take what has been asked and
what has been answered as parameters, so a run may say when and by whom.
-/

namespace WalletTopUp

variable {α : Type} {learned learned' : (request : Request) → request.Answer → Prop}
  {asked asked' : CallId → Request → Prop}

namespace Dialogue

/-- With the answers learned so far the first dialogue goes on with the second one. -/
inductive Leads (learned : (request : Request) → request.Answer → Prop) :
    Dialogue α → Dialogue α → Prop where
  | here {dialogue : Dialogue α} : Leads learned dialogue dialogue
  | call {request : Request} {resume : request.Answer → Dialogue α} {answer : request.Answer}
      {later : Dialogue α}
      (heard : learned request answer)
      (rest : Leads learned (resume answer) later) :
      Leads learned (.call request resume) later
  | firstFailed {first second : Request} {firstFailed : first.Failure → Dialogue α}
      {secondFailed : second.Failure → Dialogue α}
      {resume : first.Result → second.Result → Dialogue α} {error : first.Failure}
      {later : Dialogue α}
      (heard : learned first (.error error))
      (rest : Leads learned (firstFailed error) later) :
      Leads learned (.both first second firstFailed secondFailed resume) later
  | secondFailed {first second : Request} {firstFailed : first.Failure → Dialogue α}
      {secondFailed : second.Failure → Dialogue α}
      {resume : first.Result → second.Result → Dialogue α} {error : second.Failure}
      {later : Dialogue α}
      (heard : learned second (.error error))
      (rest : Leads learned (secondFailed error) later) :
      Leads learned (.both first second firstFailed secondFailed resume) later
  | both {first second : Request} {firstFailed : first.Failure → Dialogue α}
      {secondFailed : second.Failure → Dialogue α}
      {resume : first.Result → second.Result → Dialogue α} {left : first.Result}
      {right : second.Result} {later : Dialogue α}
      (heardFirst : learned first (.ok left))
      (heardSecond : learned second (.ok right))
      (rest : Leads learned (resume left right) later) :
      Leads learned (.both first second firstFailed secondFailed resume) later

/-- A dialogue leads on from where it has led. -/
theorem Leads.trans {first second third : Dialogue α} (left : Leads learned first second)
    (right : Leads learned second third) : Leads learned first third := by
  induction left with
  | here => exact right
  | call heard _ ih => exact .call heard (ih right)
  | firstFailed heard _ ih => exact .firstFailed heard (ih right)
  | secondFailed heard _ ih => exact .secondFailed heard (ih right)
  | both heardFirst heardSecond _ ih => exact .both heardFirst heardSecond (ih right)

/-- A dialogue leads there with more that has been learned, too. -/
theorem Leads.mono {first second : Dialogue α} (leads : Leads learned first second)
    (more : ∀ request answer, learned request answer → learned' request answer) :
    Leads learned' first second := by
  induction leads with
  | here => exact .here
  | call heard _ ih => exact .call (more _ _ heard) ih
  | firstFailed heard _ ih => exact .firstFailed (more _ _ heard) ih
  | secondFailed heard _ ih => exact .secondFailed (more _ _ heard) ih
  | both heardFirst heardSecond _ ih =>
      exact .both (more _ _ heardFirst) (more _ _ heardSecond) ih

/-- A dialogue made of two comes to its result through a result of the first one. -/
theorem Leads.of_bind {β : Type} {dialogue : Dialogue β} {f : β → Dialogue α} {result : α}
    (leads : Leads learned (dialogue.bind f) (.done result)) :
    ∃ first, Leads learned dialogue (.done first) ∧ Leads learned (f first) (.done result) := by
  induction dialogue with
  | done first => exact ⟨first, .here, leads⟩
  | call request resume ih =>
      rw [bind] at leads
      cases leads with
      | call heard rest =>
          obtain ⟨first, before, after⟩ := ih _ rest
          exact ⟨first, .call heard before, after⟩
  | both first second firstFailed secondFailed resume ihFirst ihSecond ih =>
      rw [bind] at leads
      cases leads with
      | firstFailed heard rest =>
          obtain ⟨result, before, after⟩ := ihFirst _ rest
          exact ⟨result, .firstFailed heard before, after⟩
      | secondFailed heard rest =>
          obtain ⟨result, before, after⟩ := ihSecond _ rest
          exact ⟨result, .secondFailed heard before, after⟩
      | both heardFirst heardSecond rest =>
          obtain ⟨result, before, after⟩ := ih _ _ rest
          exact ⟨result, .both heardFirst heardSecond before, after⟩

/-- What a dialogue goes on with asks for no more than the dialogue. -/
theorem Leads.allRequests {p : Request → Prop} {first second : Dialogue α}
    (leads : Leads learned first second)
    (all : first.AllRequests p) : second.AllRequests p := by
  induction leads with
  | here => exact all
  | call _ _ ih => exact ih (all.2 _)
  | firstFailed _ _ ih => exact ih (all.2.2.1 _)
  | secondFailed _ _ ih => exact ih (all.2.2.2.1 _)
  | both _ _ _ ih => exact ih (all.2.2.2.2 _ _)

/-- What is true of every request is true of it in a weaker form. -/
theorem AllRequests.mono {p q : Request → Prop} {dialogue : Dialogue α}
    (all : dialogue.AllRequests p)
    (more : ∀ request, p request → q request) : dialogue.AllRequests q := by
  induction dialogue with
  | done result => trivial
  | call request resume ih => exact ⟨more _ all.1, fun answer => ih answer (all.2 answer)⟩
  | both one other oneFailed otherFailed resume ihOne ihOther ih =>
      obtain ⟨holdsOne, holdsOther, afterOne, afterOther, afterBoth⟩ := all
      exact ⟨more _ holdsOne, more _ holdsOther, fun error => ihOne error (afterOne error),
        fun error => ihOther error (afterOther error),
        fun left right => ih left right (afterBoth left right)⟩

/-- What two dialogues ask for, the one after the other asks for. -/
theorem AllRequests.bind {β : Type} {p : Request → Prop} {dialogue : Dialogue β}
    {f : β → Dialogue α}
    (first : dialogue.AllRequests p)
    (second : ∀ result, (f result).AllRequests p) :
    (dialogue.bind f).AllRequests p := by
  induction dialogue with
  | done result => exact second result
  | call request resume ih => exact ⟨first.1, fun answer => ih answer (first.2 answer)⟩
  | both one other oneFailed otherFailed resume ihOne ihOther ih =>
      obtain ⟨holdsOne, holdsOther, afterOne, afterOther, afterBoth⟩ := first
      exact ⟨holdsOne, holdsOther, fun error => ihOne error (afterOne error),
        fun error => ihOther error (afterOther error),
        fun left right => ih left right (afterBoth left right)⟩

/-- A dialogue that has its result leads nowhere else. -/
theorem Leads.done_inj {first second : α} (leads : Leads learned (done first) (.done second)) :
    first = second := by
  cases leads with
  | here => rfl

end Dialogue

namespace Exchange

/-- Where one of two requests has got is backed by what has been asked and learned. -/
def Backed (asked : CallId → Request → Prop)
    (learned : (request : Request) → request.Answer → Prop) {request : Request} :
    Leg request → Prop
  | .unasked => True
  | .asked call => asked call request
  | .succeeded result => learned request (.ok result)

/-- The exchange of a dialogue is where the answers learned so far have led it. -/
def Follows (asked : CallId → Request → Prop)
    (learned : (request : Request) → request.Answer → Prop) (dialogue : Dialogue α) :
    Exchange α → Prop
  | ready next => dialogue.Leads learned next
  | waiting call request resume =>
    dialogue.Leads learned (.call request resume) ∧ asked call request
  | pair first second left right firstFailed secondFailed resume =>
    dialogue.Leads learned (.both first second firstFailed secondFailed resume)
      ∧ Backed asked learned left ∧ Backed asked learned right

/-- What backs a request backs it with more that has been asked and learned, too. -/
theorem Backed.mono {request : Request} {leg : Leg request} (backed : Backed asked learned leg)
    (moreAsked : ∀ call request, asked call request → asked' call request)
    (moreLearned : ∀ request answer, learned request answer → learned' request answer) :
    Backed asked' learned' leg := by
  cases leg with
  | unasked => trivial
  | asked call => exact moreAsked _ _ backed
  | succeeded result => exact moreLearned _ _ backed

/-- A dialogue that has not begun follows itself. -/
theorem Follows.ready (dialogue : Dialogue α) :
    Follows asked learned dialogue (Exchange.ready dialogue) :=
  .here

/-- An exchange follows its dialogue with more that has been asked and learned, too. -/
theorem Follows.mono {dialogue : Dialogue α} {exchange : Exchange α}
    (follows : Follows asked learned dialogue exchange)
    (moreAsked : ∀ call request, asked call request → asked' call request)
    (moreLearned : ∀ request answer, learned request answer → learned' request answer) :
    Follows asked' learned' dialogue exchange := by
  cases exchange with
  | ready next => exact Dialogue.Leads.mono follows moreLearned
  | waiting call request resume => exact ⟨follows.1.mono moreLearned, moreAsked _ _ follows.2⟩
  | pair first second left right firstFailed secondFailed resume =>
      exact ⟨follows.1.mono moreLearned, follows.2.1.mono moreAsked moreLearned,
        follows.2.2.mono moreAsked moreLearned⟩

/-- An exchange that puts out a request still follows its dialogue. -/
theorem Follows.ask {dialogue : Dialogue α} {exchange : Exchange α} {request : Request}
    {resume : CallId → Exchange α} {call : CallId}
    (follows : Follows asked learned dialogue exchange)
    (asks : exchange.ask? = some (request, resume))
    (counted : asked call request) :
    Follows asked learned dialogue (resume call) := by
  match exchange with
  | .ready (.call _ _) =>
      obtain ⟨rfl, rfl⟩ := Prod.mk.inj (Option.some.inj asks)
      exact ⟨follows, counted⟩
  | .ready (.both _ _ _ _ _) =>
      obtain ⟨rfl, rfl⟩ := Prod.mk.inj (Option.some.inj asks)
      exact ⟨follows, counted, trivial⟩
  | .pair _ _ _ .unasked _ _ _ =>
      obtain ⟨rfl, rfl⟩ := Prod.mk.inj (Option.some.inj asks)
      exact ⟨follows.1, follows.2.1, counted⟩
  | .ready (.done _) => cases asks
  | .waiting _ _ _ => cases asks
  | .pair _ _ _ (.asked _) _ _ _ => cases asks
  | .pair _ _ _ (.succeeded _) _ _ _ => cases asks

/-- Two requests of which one has just succeeded. -/
theorem Follows.joinLegs {dialogue : Dialogue α} {first second : Request} {left : Leg first}
    {right : Leg second} {firstFailed : first.Failure → Dialogue α}
    {secondFailed : second.Failure → Dialogue α}
    {resume : first.Result → second.Result → Dialogue α}
    (leads : dialogue.Leads learned (.both first second firstFailed secondFailed resume))
    (leftBacked : Backed asked learned left)
    (rightBacked : Backed asked learned right) :
    Follows asked learned dialogue
      (Exchange.joinLegs first second left right firstFailed secondFailed resume) := by
  unfold Exchange.joinLegs
  split
  · exact leads.trans (.both leftBacked rightBacked .here)
  · exact ⟨leads, leftBacked, rightBacked⟩

/-- The open call of a backed request has been put out. -/
theorem asked_of_isOpen {request : Request} {leg : Leg request} {call : CallId}
    (backed : Backed asked learned leg) (isOpen : leg.isOpen call = true) : asked call request := by
  cases leg with
  | unasked => cases isOpen
  | asked id =>
      obtain rfl : id = call := beq_iff_eq.mp isOpen
      exact backed
  | succeeded result => cases isOpen

/-- An exchange that hears an answer follows its dialogue with that answer learned. -/
theorem Follows.hear {dialogue : Dialogue α} {exchange : Exchange α} {call : CallId}
    {server : Server}
    (follows : Follows asked learned dialogue exchange)
    (moreAsked : ∀ call request, asked call request → asked' call request)
    (moreLearned : ∀ request answer, learned request answer → learned' request answer)
    (answered : ∀ request, asked call request → learned' request (server request)) :
    Follows asked' learned' dialogue (exchange.hear call server) := by
  have kept : Follows asked' learned' dialogue exchange := follows.mono moreAsked moreLearned
  cases exchange with
  | ready next => exact kept
  | waiting id request resume =>
      simp only [Exchange.hear]
      split
      · next same =>
          obtain rfl : id = call := beq_iff_eq.mp same
          exact kept.1.trans (.call (answered request follows.2) .here)
      · exact kept
  | pair first second left right firstFailed secondFailed resume =>
      simp only [Exchange.hear]
      split
      · next isOpen =>
          have heard := answered first (asked_of_isOpen follows.2.1 isOpen)
          split
          · next error answer =>
              rw [answer] at heard
              exact kept.1.trans (.firstFailed heard .here)
          · next result answer =>
              rw [answer] at heard
              exact Follows.joinLegs kept.1 heard kept.2.2
      · split
        · next isOpen =>
            have heard := answered second (asked_of_isOpen follows.2.2 isOpen)
            split
            · next error answer =>
                rw [answer] at heard
                exact kept.1.trans (.secondFailed heard .here)
            · next result answer =>
                rw [answer] at heard
                exact Follows.joinLegs kept.1 kept.2.1 heard
        · exact kept

/-- The result of an exchange is where its dialogue leads with what has been learned. -/
theorem Follows.result {dialogue : Dialogue α} {exchange : Exchange α} {result : α}
    (follows : Follows asked learned dialogue exchange)
    (ended : exchange.result? = some result) :
    dialogue.Leads learned (.done result) := by
  match exchange with
  | .ready (.done _) =>
      obtain rfl := Option.some.inj ended
      exact follows
  | .ready (.call _ _) => cases ended
  | .ready (.both _ _ _ _ _) => cases ended
  | .waiting _ _ _ => cases ended
  | .pair _ _ _ _ _ _ _ => cases ended

/-- Every request that an exchange may still make, whatever the answers are, satisfies `p`. -/
def AllRequests (p : Request → Prop) : Exchange α → Prop
  | ready next => next.AllRequests p
  | waiting _ request resume => p request ∧ ∀ answer, (resume answer).AllRequests p
  | pair first second _ _ firstFailed secondFailed resume =>
    p first ∧ p second ∧ (∀ error, (firstFailed error).AllRequests p)
      ∧ (∀ error, (secondFailed error).AllRequests p)
      ∧ ∀ left right, (resume left right).AllRequests p

variable {p : Request → Prop}

theorem AllRequests.mono {q : Request → Prop} {exchange : Exchange α}
    (all : exchange.AllRequests p)
    (more : ∀ request, p request → q request) : exchange.AllRequests q := by
  cases exchange with
  | ready next => exact Dialogue.AllRequests.mono all more
  | waiting call request resume => exact ⟨more _ all.1, fun answer => (all.2 answer).mono more⟩
  | pair first second left right firstFailed secondFailed resume =>
      obtain ⟨holdsFirst, holdsSecond, afterFirst, afterSecond, afterBoth⟩ := all
      exact ⟨more _ holdsFirst, more _ holdsSecond, fun error => (afterFirst error).mono more,
        fun error => (afterSecond error).mono more,
        fun left right => (afterBoth left right).mono more⟩

/-- An exchange asks nothing but what its dialogue may ask. -/
theorem Follows.allRequests {dialogue : Dialogue α} {exchange : Exchange α}
    (follows : Follows asked learned dialogue exchange)
    (all : dialogue.AllRequests p) : exchange.AllRequests p := by
  cases exchange with
  | ready next => exact Dialogue.Leads.allRequests follows all
  | waiting call request resume => exact follows.1.allRequests all
  | pair first second left right firstFailed secondFailed resume => exact follows.1.allRequests all

/-- What an exchange asks next is one of its requests, and so is everything later. -/
theorem AllRequests.ask {exchange : Exchange α} {request : Request} {resume : CallId → Exchange α}
    (all : exchange.AllRequests p)
    (asks : exchange.ask? = some (request, resume)) :
    p request ∧ ∀ call, (resume call).AllRequests p := by
  match exchange with
  | .ready (.call _ _) =>
      obtain ⟨rfl, rfl⟩ := Prod.mk.inj (Option.some.inj asks)
      exact ⟨all.1, fun _ => all⟩
  | .ready (.both _ _ _ _ _) =>
      obtain ⟨rfl, rfl⟩ := Prod.mk.inj (Option.some.inj asks)
      exact ⟨all.1, fun _ => all⟩
  | .pair _ _ _ .unasked _ _ _ =>
      obtain ⟨rfl, rfl⟩ := Prod.mk.inj (Option.some.inj asks)
      exact ⟨all.2.1, fun _ => all⟩
  | .ready (.done _) => cases asks
  | .waiting _ _ _ => cases asks
  | .pair _ _ _ (.asked _) _ _ _ => cases asks
  | .pair _ _ _ (.succeeded _) _ _ _ => cases asks

/-- Two requests that have both succeeded lead on to the requests that come after them. -/
theorem AllRequests.joinLegs {first second : Request} {left : Leg first} {right : Leg second}
    {firstFailed : first.Failure → Dialogue α} {secondFailed : second.Failure → Dialogue α}
    {resume : first.Result → second.Result → Dialogue α}
    (all : (pair first second left right firstFailed secondFailed resume).AllRequests p) :
    (Exchange.joinLegs first second left right firstFailed secondFailed resume).AllRequests p := by
  unfold Exchange.joinLegs
  split
  · exact all.2.2.2.2 _ _
  · exact all

/-- An answer leads on to requests of the same kind. -/
theorem AllRequests.hear {exchange : Exchange α} (call : CallId) (server : Server)
    (all : exchange.AllRequests p) : (exchange.hear call server).AllRequests p := by
  cases exchange with
  | ready next => exact all
  | waiting id request resume =>
      simp only [Exchange.hear]
      split
      · exact all.2 _
      · exact all
  | pair first second left right firstFailed secondFailed resume =>
      simp only [Exchange.hear]
      split
      · split
        · exact all.2.2.1 _
        · exact AllRequests.joinLegs all
      · split
        · split
          · exact all.2.2.2.1 _
          · exact AllRequests.joinLegs all
        · exact all

end Exchange

end WalletTopUp
