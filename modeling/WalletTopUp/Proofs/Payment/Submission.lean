import WalletTopUp.Payment.Submission
import WalletTopUp.Proofs.Service.Course

/-!
# What is sent for a payment

Which requests an operation of the payment service makes, and with what it ends, for every answer to
them and in whatever order and after whatever time the answers come.  The provider is only contacted
for a wallet that has been found, and a payment that is routed to partners is only sent once both of
their addresses are known (`Payment.nothing_sent_in_part`).
-/

namespace WalletTopUp

/-! ## Answers -/

namespace Answered

/-- What came of looking up the wallet. -/
def wallet (answer : Except ServiceError String) : Answered := ⟨.wallet, answer⟩

/-- What came of looking up the address of a partner. -/
def partner (role : PartnerRole) (package : String) (answer : Except ServiceError String) :
    Answered := ⟨.partner role package, answer⟩

/-- What came of a payment. -/
def pay (payment : PaymentRequest) (answer : Except ServiceError PaymentReply) : Answered :=
  ⟨.pay payment, answer⟩

end Answered

/-- A dialogue keeps to a condition on its requests, on the answers it has heard and on how far it
has got, in every run. -/
def Dialogue.InEveryRun (dialogue : Dialogue α)
    (keeps : List Request → List Answered → Exchange α → Prop) : Prop :=
  ∀ past run, DialogueRun.Runs dialogue past run →
    keeps run.requests (DialogueRun.heard past) run.exchange

/-- What holds on every course holds in every run. -/
theorem Dialogue.inEveryRun_of_course {α : Type} {dialogue : Dialogue α}
    {keeps : List Request → List Answered → Exchange α → Prop}
    (onCourse : ∀ requests heard exchange, dialogue.Course requests heard exchange →
      keeps requests heard exchange) : dialogue.InEveryRun keeps :=
  fun _ _ runs => onCourse _ _ _ (DialogueRun.course_of_runs runs)

namespace Answered

variable {first second : Except ServiceError String}

/-- What came of looking up the wallet tells the answer. -/
@[simp] theorem wallet_inj : wallet first = wallet second ↔ first = second :=
  ⟨fun same => by cases same; rfl, fun same => same ▸ rfl⟩

/-- What came of looking up a partner tells whose address it is, and the answer. -/
@[simp] theorem partner_inj {role role' : PartnerRole} {package : String} :
    partner role package first = partner role' package second ↔ role = role' ∧ first = second :=
  ⟨fun same => by cases same; exact ⟨rfl, rfl⟩, fun ⟨role, same⟩ => role ▸ same ▸ rfl⟩

/-- What came of a payment tells the payment and the answer. -/
@[simp] theorem pay_inj {payment payment' : PaymentRequest}
    {answer answer' : Except ServiceError PaymentReply} :
    pay payment answer = pay payment' answer' ↔ payment = payment' ∧ answer = answer' :=
  ⟨fun same => by cases same; exact ⟨rfl, rfl⟩, fun ⟨same, answers⟩ => same ▸ answers ▸ rfl⟩

variable {role : PartnerRole} {package : String} {payment : PaymentRequest}
  {answer : Except ServiceError PaymentReply}

/-- The look-up of the wallet and that of a partner's address differ. -/
@[simp] theorem wallet_ne_partner : wallet first ≠ partner role package second := nofun

@[simp] theorem partner_ne_wallet : partner role package first ≠ wallet second := nofun

@[simp] theorem pay_ne_wallet : pay payment answer ≠ wallet first := nofun

@[simp] theorem pay_ne_partner : pay payment answer ≠ partner role package first := nofun

end Answered

namespace Payment

variable {α : Type} {order : PaymentOrder} {requests : List Request} {heard : List Answered}

/-! ## Contact with the provider -/

/-- What an operation makes of an answer of the provider. -/
def provided {ρ : Type} (read : ρ → Except PaymentError α) (answer : Except ServiceError ρ) :
    Except PaymentError α :=
  (answer.mapError PaymentError.submission).bind read

/-- The wallet has been neither found nor missed: it is asked for next, or the question is open.
Until then nothing has come of the operation. -/
structure AwaitsWallet (requests : List Request) (exchange : Exchange α) : Prop where
  asks : requests = [] ∧ (∃ resume, exchange.ask? = some (.wallet, resume))
    ∨ requests = [.wallet] ∧ ∃ call, exchange.openCalls = [(call, .wallet)]
  unended : exchange.result? = none

/-- The provider is contacted if and only if the wallet has been found, and then for that wallet;
nobody else is asked anything, and nothing comes of the operation before. -/
structure Contacts (contact : String → Request)
    (read : ∀ wallet, (contact wallet).Answer → Except PaymentError α)
    (requests : List Request) (heard : List Answered)
    (exchange : Exchange (Except PaymentError α)) : Prop where
  /-- The wallet comes first. -/
  begins : heard = [] → AwaitsWallet requests exchange
  /-- Nothing is asked but for the wallet and, for a wallet that has been found, the provider. -/
  nothingElse : ∀ request ∈ requests, request = .wallet
    ∨ ∃ wallet, Answered.wallet (.ok wallet) ∈ heard ∧ request = contact wallet
  /-- Once the wallet has been found the provider is contacted once, at the latest with the next
  request. -/
  found : ∀ wallet, Answered.wallet (.ok wallet) ∈ heard →
    requests = [.wallet, contact wallet]
      ∨ requests = [.wallet] ∧ ∃ resume, exchange.ask? = some (contact wallet, resume)
  /-- If the wallet has not been found, that is the end of it. -/
  missing : ∀ error, Answered.wallet (.error error) ∈ heard →
    requests = [.wallet] ∧ exchange.result? = some (.error (.identity error))
  /-- What the provider answers is the result. -/
  answered : ∀ wallet answer, Answered.wallet (.ok wallet) ∈ heard →
    (⟨contact wallet, answer⟩ : Answered) ∈ heard →
    exchange.result? = some (read wallet answer)
  /-- Only a wallet that has not been found and an answer of the provider end the operation. -/
  ended : ∀ result, exchange.result? = some result →
    (∃ error, Answered.wallet (.error error) ∈ heard)
      ∨ ∃ wallet answer, Answered.wallet (.ok wallet) ∈ heard
          ∧ (⟨contact wallet, answer⟩ : Answered) ∈ heard

/-- How far an operation that starts with looking up the wallet has got. -/
theorem course_withWallet {next : String → Dialogue (Except PaymentError α)}
    {exchange : Exchange (Except PaymentError α)}
    (course : (withWallet next).Course requests heard exchange) :
    (heard = [] ∧ AwaitsWallet requests exchange)
      ∨ (∃ error, requests = [.wallet] ∧ heard = [.wallet (.error error)]
          ∧ exchange = .ready (.done (.error (.identity error))))
      ∨ ∃ wallet later laterHeard, requests = .wallet :: later
          ∧ heard = .wallet (.ok wallet) :: laterHeard
          ∧ (next wallet).Course later laterHeard exchange := by
  cases course with
  | here => exact .inl ⟨rfl, .inl ⟨rfl, _, rfl⟩, rfl⟩
  | waiting => exact .inl ⟨rfl, .inr ⟨rfl, _, rfl⟩, rfl⟩
  | @call _ _ answer _ _ _ rest =>
      cases answer with
      | error error =>
          cases rest with
          | here => exact .inr (.inl ⟨error, rfl, rfl, rfl⟩)
      | ok wallet => exact .inr (.inr ⟨wallet, _, _, rfl, rfl, rest⟩)

/-- As long as the wallet is awaited, nobody else has been asked anything. -/
theorem AwaitsWallet.eq_wallet {exchange : Exchange α} (awaits : AwaitsWallet requests exchange)
    {request : Request} (asked : request ∈ requests) : request = .wallet := by
  rcases awaits.asks with ⟨rfl, _⟩ | ⟨rfl, _⟩
  · cases asked
  · exact List.mem_singleton.mp asked

/-- How far a dialogue of one request has got: the request is made, now or next, and the dialogue
ends with what is read off the answer. -/
theorem course_last {request : Request} {read : request.Answer → α} {exchange : Exchange α}
    (course : (Dialogue.call request fun answer => .done (read answer)).Course
      requests heard exchange) :
    (requests = [request] ∨ requests = [] ∧ ∃ resume, exchange.ask? = some (request, resume))
      ∧ ∃ answer? : Option request.Answer, heard = (answer?.map (Answered.mk request)).toList
          ∧ exchange.result? = answer?.map read := by
  cases course with
  | here => exact ⟨.inr ⟨rfl, _, rfl⟩, none, rfl, rfl⟩
  | waiting => exact ⟨.inl rfl, none, rfl, rfl⟩
  | @call _ _ answer _ _ _ rest =>
      cases rest with
      | here => exact ⟨.inl rfl, some answer, rfl, rfl⟩

/-- Sending is one request, and its result is what is read off the reply. -/
theorem send_eq_call (order : PaymentOrder) (wallet : String) (routing : Option Routing) :
    send order wallet routing
      = .call (.pay (order.request wallet routing))
          fun answer => .done (provided PaymentReply.outcome answer) := by
  unfold send
  congr 1
  funext answer
  cases answer <;> rfl

section Contact

variable {contact : String → Request}
  {read : ∀ wallet, (contact wallet).Answer → Except PaymentError α}
  {exchange : Exchange (Except PaymentError α)} {wallet : String}

/-- As long as the wallet is awaited the provider is not contacted. -/
theorem AwaitsWallet.contacts (awaits : AwaitsWallet requests exchange) :
    Contacts contact read requests [] exchange where
  begins _ := awaits
  nothingElse _ member := .inl (awaits.eq_wallet member)
  found _ member := absurd member List.not_mem_nil
  missing _ member := absurd member List.not_mem_nil
  answered _ _ member := absurd member List.not_mem_nil
  ended _ ended := by cases awaits.unended.symm.trans ended

/-- Without a wallet there is nobody to contact the provider for. -/
theorem contacts_of_missing (error : ServiceError) :
    Contacts contact read [.wallet] [.wallet (.error error)]
      (.ready (.done (.error (.identity error)))) where
  begins := nofun
  nothingElse _ member := .inl (List.mem_singleton.mp member)
  found _ found := by cases List.mem_singleton.mp found
  missing _ missing := by
    cases List.mem_singleton.mp missing
    exact ⟨rfl, rfl⟩
  answered _ _ found := by cases List.mem_singleton.mp found
  ended _ _ := .inl ⟨error, List.mem_singleton_self _⟩

/-- What comes from the provider is no news of the wallet. -/
theorem eq_ok_of_heard {answer? : Option (contact wallet).Answer}
    (provider : contact wallet ≠ .wallet) {result : Except ServiceError String}
    (member : Answered.wallet result
      ∈ Answered.wallet (.ok wallet) :: (answer?.map (Answered.mk (contact wallet))).toList) :
    result = .ok wallet := by
  rcases List.mem_cons.mp member with same | member
  · exact Answered.wallet_inj.mp same
  · obtain ⟨_, _, same⟩ := Option.map_eq_some_iff.mp (Option.mem_toList.mp member)
    exact absurd (congrArg Answered.request same) provider

/-- For a wallet that has been found the provider is contacted once, and its answer is the
result. -/
theorem contacts_of_found {answer? : Option (contact wallet).Answer}
    (provider : contact wallet ≠ .wallet)
    (asked : requests = [contact wallet]
      ∨ requests = [] ∧ ∃ resume, exchange.ask? = some (contact wallet, resume))
    (result : exchange.result? = answer?.map (read wallet)) :
    Contacts contact read (.wallet :: requests)
      (.wallet (.ok wallet) :: (answer?.map (Answered.mk (contact wallet))).toList) exchange where
  begins := nofun
  nothingElse := by
    intro request member
    rcases List.mem_cons.mp member with rfl | member
    · exact .inl rfl
    rcases asked with rfl | ⟨rfl, _⟩
    · exact .inr ⟨wallet, List.mem_cons_self, List.mem_singleton.mp member⟩
    · cases member
  found := by
    intro _ member
    cases eq_ok_of_heard provider member
    exact asked.imp (fun same => by rw [same]) fun ⟨same, asks⟩ => ⟨by rw [same], asks⟩
  missing := by
    intro _ member
    cases eq_ok_of_heard provider member
  answered := by
    intro _ answer member answered
    cases eq_ok_of_heard provider member
    rcases List.mem_cons.mp answered with same | answered
    · exact absurd (congrArg Answered.request same) provider
    · obtain ⟨_, given, same⟩ := Option.map_eq_some_iff.mp (Option.mem_toList.mp answered)
      cases same
      rw [result, given]
      rfl
  ended := by
    intro _ ended
    obtain ⟨answer, rfl, _⟩ := Option.map_eq_some_iff.mp (result.symm.trans ended)
    exact .inr ⟨wallet, answer, List.mem_cons_self,
      List.mem_cons_of_mem _ (List.mem_singleton_self _)⟩

/-- An operation that looks up the wallet and then makes one request contacts the provider as it
should, however far it has got. -/
theorem contacts_of_course (provider : ∀ wallet, contact wallet ≠ .wallet)
    (course : (withWallet fun wallet =>
      .call (contact wallet) fun answer => .done (read wallet answer)).Course
        requests heard exchange) :
    Contacts contact read requests heard exchange := by
  rcases course_withWallet course with ⟨rfl, awaits⟩ | ⟨error, rfl, rfl, rfl⟩
    | ⟨wallet, later, laterHeard, rfl, rfl, rest⟩
  · exact awaits.contacts
  · exact contacts_of_missing error
  · obtain ⟨asked, answer?, rfl, result⟩ := course_last rest
    exact contacts_of_found (provider wallet) asked result

end Contact

/-! ## Payments that are routed to partners -/

/-- The payments that are asked for, in order. -/
def payments (requests : List Request) : List PaymentRequest :=
  requests.filterMap fun
    | .pay payment => some payment
    | _ => none

/-- Everything that a payment which is routed to partners has to know has been found. -/
structure Located (order : PaymentOrder) (heard : List Answered) (wallet store oem : String) :
    Prop where
  wallet : .wallet (.ok wallet) ∈ heard
  store : .partner .store order.package (.ok store) ∈ heard
  oem : .partner .oem order.package (.ok oem) ∈ heard

/-- A payment comes from a wallet, which is the user's as well, and is routed to both partners. -/
structure IsRouted (payment : PaymentRequest) (wallet store oem : String) : Prop where
  payer : payment.walletAddress = wallet
  user : payment.userWallet = some wallet
  store : payment.storeWallet = some store
  oem : payment.oemWallet = some oem

/-- The request for an order names its wallet and both partners in their own places. -/
theorem isRouted_request (order : PaymentOrder) (wallet store oem : String) :
    IsRouted (order.request wallet (some ⟨store, oem⟩)) wallet store oem := ⟨rfl, rfl, rfl, rfl⟩

/-- A payment that is routed to partners is sent as a whole or not at all. -/
structure SentWhole (order : PaymentOrder) (requests : List Request) (heard : List Answered)
    (exchange : Exchange PaymentResult) : Prop where
  /-- The wallet comes first. -/
  begins : heard = [] → AwaitsWallet requests exchange
  /-- Nothing is asked but for the wallet, the partners of the package and the payment. -/
  nothingElse : ∀ request ∈ requests, request = .wallet
    ∨ (∃ role, request = .partner role order.package) ∨ ∃ payment, request = .pay payment
  /-- Nothing is sent, or one payment, with everything that has been found. -/
  once : payments requests = [] ∨ ∃ wallet store oem, Located order heard wallet store oem
    ∧ ∃ payment, payments requests = [payment] ∧ IsRouted payment wallet store oem
      ∧ payment = order.request wallet (some ⟨store, oem⟩)
  /-- Once everything has been found the payment is sent, at the latest with the next request. -/
  sent : ∀ wallet store oem, Located order heard wallet store oem →
    payments requests = [order.request wallet (some ⟨store, oem⟩)]
      ∨ ∃ resume,
          exchange.ask? = some (.pay (order.request wallet (some ⟨store, oem⟩)), resume)
  /-- If the wallet has not been found, nobody else is asked anything. -/
  missing : ∀ error, .wallet (.error error) ∈ heard →
    requests = [.wallet] ∧ exchange.result? = some (.error (.identity error))
  /-- If a partner has not been found, the result names one that has not, and nothing is sent. -/
  unrouted : ∀ role error, .partner role order.package (.error error) ∈ heard →
    payments requests = [] ∧ ∃ role error, .partner role order.package (.error error) ∈ heard
      ∧ exchange.result? = some (.error (.routingAddress role error))
  /-- What the provider answers is the result. -/
  answered : ∀ payment answer, .pay payment answer ∈ heard →
    exchange.result? = some (provided PaymentReply.outcome answer)
  /-- Only a wallet or a partner that has not been found and an answer of the provider end it. -/
  ended : ∀ result, exchange.result? = some result →
    (∃ error, .wallet (.error error) ∈ heard)
      ∨ (∃ role error, .partner role order.package (.error error) ∈ heard)
      ∨ ∃ payment answer, .pay payment answer ∈ heard

/-- What is left of a payment once the wallet has been found. -/
def routed (order : PaymentOrder) (wallet : String) : Dialogue PaymentResult :=
  .both (.partner .store order.package) (.partner .oem order.package)
    (fun error => .done (.error (.routingAddress .store error)))
    (fun error => .done (.error (.routingAddress .oem error)))
    (fun store oem => .call (.pay (order.request wallet (some ⟨store, oem⟩)))
      fun answer => .done (provided PaymentReply.outcome answer))

/-- Looking up one partner asks for that partner only and finds that partner, if any. -/
theorem lookUp_leg {role : PartnerRole} (leg : Leg (.partner role order.package)) :
    (∀ request ∈ leg.requests, request = .partner role order.package)
      ∧ ∀ answer ∈ leg.heard, ∃ address, answer = .partner role order.package (.ok address) := by
  cases leg with
  | unasked => exact ⟨List.forall_mem_nil _, List.forall_mem_nil _⟩
  | asked _ => exact ⟨fun request member => List.mem_singleton.mp member, List.forall_mem_nil _⟩
  | succeeded address =>
      exact ⟨fun request member => List.mem_singleton.mp member,
        fun answer member => ⟨address, List.mem_singleton.mp member⟩⟩

/-- A payment whose partners have not both been found. -/
structure LooksUp (order : PaymentOrder) (requests : List Request) (heard : List Answered)
    (exchange : Exchange PaymentResult) : Prop where
  asks : ∀ request ∈ requests, ∃ role, request = .partner role order.package
  partners : ∀ answer ∈ heard, ∃ role result, answer = .partner role order.package result
  lost : ∃ role, ∀ address, .partner role order.package (.ok address) ∉ heard
  failed : ∀ role error, .partner role order.package (.error error) ∈ heard →
    ∃ role error, .partner role order.package (.error error) ∈ heard
      ∧ exchange.result? = some (.error (.routingAddress role error))
  ended : ∀ result, exchange.result? = some result →
    ∃ role error, .partner role order.package (.error error) ∈ heard

/-- Nothing is sent while the partners are looked up. -/
theorem LooksUp.unpaid {exchange : Exchange PaymentResult}
    (looksUp : LooksUp order requests heard exchange) : payments requests = [] := by
  refine List.filterMap_eq_nil_iff.mpr fun request member => ?_
  obtain ⟨role, rfl⟩ := looksUp.asks request member
  rfl

/-- A payment ends as soon as one partner has not been found, whatever is known of the other. -/
theorem looksUp_of_failed {role other : PartnerRole} (leg : Leg (.partner other order.package))
    (different : role ≠ other) (error : ServiceError)
    (asks : ∀ request ∈ requests, ∃ role, request = .partner role order.package) :
    LooksUp order requests (leg.heard ++ [.partner role order.package (.error error)])
      (.ready (.done (.error (.routingAddress role error)))) where
  asks := asks
  partners := by
    intro answer member
    rcases List.mem_append.mp member with member | member
    · obtain ⟨_, same⟩ := (lookUp_leg leg).2 answer member
      exact ⟨_, _, same⟩
    · exact ⟨_, _, List.mem_singleton.mp member⟩
  lost := by
    refine ⟨role, fun address member => ?_⟩
    rcases List.mem_append.mp member with member | member
    · obtain ⟨_, same⟩ := (lookUp_leg leg).2 _ member
      exact different (Answered.partner_inj.mp same).1
    · simp at member
  failed := fun _ _ _ =>
    ⟨role, error, List.mem_append_right _ (List.mem_singleton_self _), rfl⟩
  ended := fun _ _ => ⟨role, error, List.mem_append_right _ (List.mem_singleton_self _)⟩

/-- While the partners are looked up, at most one of them has been found. -/
theorem looksUp_of_legs {exchange : Exchange PaymentResult}
    (store : Leg (.partner .store order.package)) (oem : Leg (.partner .oem order.package))
    (unanswered : store.heard = [] ∨ oem.heard = []) (unended : exchange.result? = none) :
    LooksUp order (store.requests ++ oem.requests) (store.heard ++ oem.heard) exchange := by
  obtain ⟨storeAsks, storeFinds⟩ := lookUp_leg store
  obtain ⟨oemAsks, oemFinds⟩ := lookUp_leg oem
  -- Whatever the two have heard has succeeded: a failure would have ended both look-ups.
  have finds : ∀ answer ∈ store.heard ++ oem.heard, ∃ role address,
      answer = .partner role order.package (.ok address) := fun answer member =>
    (List.mem_append.mp member).elim (fun member => ⟨_, storeFinds answer member⟩)
      fun member => ⟨_, oemFinds answer member⟩
  constructor
  case asks =>
    intro request member
    rcases List.mem_append.mp member with member | member
    · exact ⟨_, storeAsks request member⟩
    · exact ⟨_, oemAsks request member⟩
  case partners =>
    intro answer member
    obtain ⟨_, _, same⟩ := finds answer member
    exact ⟨_, _, same⟩
  case lost =>
    rcases unanswered with none | none
    · refine ⟨.store, fun address member => ?_⟩
      rw [none, List.nil_append] at member
      obtain ⟨_, same⟩ := oemFinds _ member
      cases same
    · refine ⟨.oem, fun address member => ?_⟩
      rw [none, List.append_nil] at member
      obtain ⟨_, same⟩ := storeFinds _ member
      cases same
  case failed =>
    intro role error member
    obtain ⟨_, _, same⟩ := finds _ member
    cases same
  case ended =>
    intro result ended
    cases unended.symm.trans ended

/-- How far a payment has got with its partners. -/
theorem course_routed {wallet : String} {exchange : Exchange PaymentResult}
    (course : (routed order wallet).Course requests heard exchange) :
    LooksUp order requests heard exchange
      ∨ ∃ store oem both later laterHeard,
          List.Perm both [.partner .store order.package (.ok store),
            .partner .oem order.package (.ok oem)]
          ∧ requests = .partner .store order.package :: .partner .oem order.package :: later
          ∧ heard = both ++ laterHeard
          ∧ (Dialogue.call (.pay (order.request wallet (some ⟨store, oem⟩)))
              fun answer => .done (provided PaymentReply.outcome answer)).Course
              later laterHeard exchange := by
  cases course with
  | here => exact .inl (looksUp_of_legs .unasked .unasked (.inl rfl) rfl)
  | pair left right unanswered => exact .inl (looksUp_of_legs left right unanswered rfl)
  | @firstFailed _ _ right _ _ _ error _ _ _ rest =>
      cases rest with
      | here =>
          refine .inl (looksUp_of_failed right (by decide) error fun request member => ?_)
          rw [List.append_nil] at member
          rcases List.mem_cons.mp member with rfl | member
          · exact ⟨_, rfl⟩
          · exact ⟨_, (lookUp_leg right).1 request member⟩
  | @secondFailed _ _ left _ _ _ error _ _ _ rest =>
      cases rest with
      | here =>
          refine .inl (looksUp_of_failed left (by decide) error fun request member => ?_)
          rcases List.mem_append.mp member with member | member
          · exact ⟨_, (lookUp_leg left).1 request member⟩
          · exact ⟨_, List.mem_singleton.mp member⟩
  | @both _ _ _ _ _ _ _ later _ _ _ successes rest =>
      exact .inr ⟨_, _, _, later, _, successes, rfl, rfl, rest⟩

/-- A payment that is routed to partners starts with the wallet. -/
theorem submit_eq_withWallet (order : PaymentOrder) : submit order = withWallet (routed order) := by
  simp only [submit, lookUpPartners, Dialogue.andThen, Dialogue.bind, send_eq_call]
  rfl

/-- As long as the partners have not both been found, nothing has been sent. -/
theorem sentWhole_of_looksUp {wallet : String} {exchange : Exchange PaymentResult}
    (looksUp : LooksUp order requests heard exchange) :
    SentWhole order (.wallet :: requests) (.wallet (.ok wallet) :: heard) exchange where
  begins := nofun
  nothingElse := by
    intro request member
    rcases List.mem_cons.mp member with rfl | member
    · exact .inl rfl
    · exact .inr (.inl (looksUp.asks request member))
  once := .inl looksUp.unpaid
  sent := by
    intro wallet' store oem located
    obtain ⟨role, lost⟩ := looksUp.lost
    cases role with
    | store => exact absurd located.store (by simp [lost])
    | oem => exact absurd located.oem (by simp [lost])
  missing := by
    intro error member
    obtain ⟨_, _, same⟩ := looksUp.partners _ (by simpa using member)
    cases same
  unrouted := by
    intro role error member
    obtain ⟨role, error, failed, result⟩ := looksUp.failed role error (by simpa using member)
    exact ⟨looksUp.unpaid, role, error, List.mem_cons_of_mem _ failed, result⟩
  answered := by
    intro payment answer member
    obtain ⟨_, _, same⟩ := looksUp.partners _ (by simpa using member)
    cases same
  ended := by
    intro result ended
    obtain ⟨role, error, failed⟩ := looksUp.ended result ended
    exact .inr (.inl ⟨role, error, List.mem_cons_of_mem _ failed⟩)

/-- Once both partners have been found nothing is left but to pay. -/
theorem sentWhole_of_found {wallet store oem : String} {both : List Answered}
    {exchange : Exchange PaymentResult} {answer? : Option (Except ServiceError PaymentReply)}
    (successes : both.Perm [.partner .store order.package (.ok store),
      .partner .oem order.package (.ok oem)])
    (asked : requests = [.pay (order.request wallet (some ⟨store, oem⟩))]
      ∨ requests = [] ∧ ∃ resume,
          exchange.ask? = some (.pay (order.request wallet (some ⟨store, oem⟩)), resume))
    (result : exchange.result? = answer?.map (provided PaymentReply.outcome)) :
    SentWhole order
      (.wallet :: .partner .store order.package :: .partner .oem order.package :: requests)
      (.wallet (.ok wallet)
        :: (both ++ (answer?.map (.pay (order.request wallet (some ⟨store, oem⟩)))).toList))
      exchange where
  begins := nofun
  nothingElse := by
    intro request member
    rcases List.mem_cons.mp member with rfl | member
    · exact .inl rfl
    rcases List.mem_cons.mp member with rfl | member
    · exact .inr (.inl ⟨_, rfl⟩)
    rcases List.mem_cons.mp member with rfl | member
    · exact .inr (.inl ⟨_, rfl⟩)
    rcases asked with rfl | ⟨rfl, _⟩
    · exact .inr (.inr ⟨_, List.mem_singleton.mp member⟩)
    · cases member
  once := by
    rcases asked with rfl | ⟨rfl, _⟩
    · refine .inr ⟨wallet, store, oem, ?_, _, rfl, isRouted_request .., rfl⟩
      constructor <;> simp [successes.mem_iff]
    · exact .inl rfl
  sent := by
    intro wallet' store' oem' located
    obtain rfl : wallet' = wallet := by simpa [successes.mem_iff] using located.wallet
    obtain rfl : store' = store := by simpa [successes.mem_iff] using located.store
    obtain rfl : oem' = oem := by simpa [successes.mem_iff] using located.oem
    rcases asked with rfl | ⟨_, asks⟩
    · exact .inl rfl
    · exact .inr asks
  missing := by simp [successes.mem_iff]
  unrouted := by simp [successes.mem_iff]
  answered := by
    intro payment answer member
    obtain ⟨given, _⟩ : answer? = some answer ∧ _ = payment := by
      simpa [successes.mem_iff] using member
    rw [result, given]
    rfl
  ended := by
    intro ending ended
    obtain ⟨answer, rfl, _⟩ := Option.map_eq_some_iff.mp (result.symm.trans ended)
    exact .inr (.inr ⟨order.request wallet (some ⟨store, oem⟩), answer, by simp⟩)

/-- As long as the wallet is awaited nothing has been sent. -/
theorem AwaitsWallet.sentWhole {exchange : Exchange PaymentResult}
    (awaits : AwaitsWallet requests exchange) : SentWhole order requests [] exchange where
  begins _ := awaits
  nothingElse _ member := .inl (awaits.eq_wallet member)
  once := .inl (by rcases awaits.asks with ⟨rfl, _⟩ | ⟨rfl, _⟩ <;> rfl)
  sent _ _ _ located := absurd located.wallet List.not_mem_nil
  missing _ member := absurd member List.not_mem_nil
  unrouted _ _ member := absurd member List.not_mem_nil
  answered _ _ member := absurd member List.not_mem_nil
  ended _ ended := by cases awaits.unended.symm.trans ended

/-- Without a wallet nothing is sent. -/
theorem sentWhole_of_missing (error : ServiceError) :
    SentWhole order [.wallet] [.wallet (.error error)]
      (.ready (.done (.error (.identity error)))) where
  begins := nofun
  nothingElse _ member := .inl (List.mem_singleton.mp member)
  once := .inl rfl
  sent _ _ _ located := by cases List.mem_singleton.mp located.wallet
  missing _ missing := by
    cases List.mem_singleton.mp missing
    exact ⟨rfl, rfl⟩
  unrouted _ _ failed := by cases List.mem_singleton.mp failed
  answered _ _ answered := by cases List.mem_singleton.mp answered
  ended _ _ := .inl ⟨error, List.mem_singleton_self _⟩

/-- However far a payment that is routed to partners has got, it has been sent as a whole or not at
all. -/
theorem sentWhole_of_course {exchange : Exchange PaymentResult}
    (course : (submit order).Course requests heard exchange) :
    SentWhole order requests heard exchange := by
  rw [submit_eq_withWallet] at course
  rcases course_withWallet course with ⟨rfl, awaits⟩ | ⟨error, rfl, rfl, rfl⟩
    | ⟨wallet, later, laterHeard, rfl, rfl, rest⟩
  · exact awaits.sentWhole
  · exact sentWhole_of_missing error
  rcases course_routed rest with looksUp
    | ⟨store, oem, both, last, lastHeard, successes, rfl, rfl, pays⟩
  · exact sentWhole_of_looksUp looksUp
  · obtain ⟨asked, answer?, rfl, result⟩ := course_last pays
    exact sentWhole_of_found successes asked result

/-! ## All operations -/

/-- Topping up is looking up the wallet and paying. -/
theorem submitTopUp_eq (order : PaymentOrder) :
    submitTopUp order = withWallet fun wallet => .call (.pay (order.request wallet none))
      fun answer => .done (provided PaymentReply.outcome answer) :=
  congrArg withWallet (funext fun wallet => send_eq_call order wallet none)

/-- An operation that goes on with one request is known by what it makes of the answer. -/
theorem withWallet_call {contact : String → Request}
    {next : ∀ wallet, (contact wallet).Answer → Dialogue (Except PaymentError α)}
    {read : ∀ wallet, (contact wallet).Answer → Except PaymentError α}
    (reads : ∀ wallet answer, next wallet answer = .done (read wallet answer)) :
    (withWallet fun wallet => .call (contact wallet) (next wallet))
      = withWallet fun wallet => .call (contact wallet) fun answer => .done (read wallet answer) :=
  congrArg withWallet (funext fun wallet =>
    congrArg (Dialogue.call (contact wallet)) (funext (reads wallet)))

/-- Completing a payment is looking up the wallet and handing over what came back. -/
theorem submitRedirect_eq (uid : String) (details : Json.Value) (paymentData : Option String) :
    submitRedirect uid details paymentData
      = withWallet fun wallet => .call (.redirect uid wallet details paymentData)
          fun answer => .done (provided PaymentReply.outcome answer) :=
  withWallet_call fun _ answer => by cases answer <;> rfl

/-- Asking how a payment would look is looking up the wallet and asking for it. -/
theorem loadInfo_eq (method value currency : String) :
    loadInfo method value currency
      = withWallet fun wallet => .call (.info method value currency wallet)
          fun answer => .done (provided .ok answer) :=
  withWallet_call fun _ answer => by cases answer <;> rfl

/-- Forgetting payment instruments is looking up the wallet and forgetting its own. -/
theorem disable_eq :
    disable = withWallet fun wallet => .call (.disable wallet)
      fun answer => .done (provided .ok answer) :=
  withWallet_call fun _ answer => by cases answer <;> rfl

/-- Topping up has nothing to do with partners. -/
structure IsUnrouted (requests : List Request) : Prop where
  unasked : ∀ role package, .partner role package ∉ requests
  unnamed : ∀ payment ∈ payments requests,
    payment.storeWallet = none ∧ payment.oemWallet = none ∧ payment.userWallet = none

/-- Whoever contacts nobody but the provider, with payments that name no partner, has nothing to do
with partners. -/
theorem isUnrouted_of_contacts {read : String → Except ServiceError PaymentReply → PaymentResult}
    {exchange : Exchange PaymentResult}
    (contacts : Contacts (fun wallet => .pay (order.request wallet none)) read
      requests heard exchange) : IsUnrouted requests where
  unasked := by
    intro role package member
    rcases contacts.nothingElse _ member with same | ⟨_, _, same⟩ <;> cases same
  unnamed := by
    intro payment member
    obtain ⟨request, asked, same⟩ := List.mem_filterMap.mp member
    rcases contacts.nothingElse _ asked with rfl | ⟨_, _, rfl⟩
    · cases same
    · cases same
      exact ⟨rfl, rfl, rfl⟩

/-- **Nothing is sent in part.**  A payment that is routed to partners is sent once the wallet and
both partners have been found, with all of their addresses in their own places, and not at all
otherwise; its result names what has failed.  Every other operation contacts the provider if and
only if the wallet has been found, and then for that wallet.  Topping up involves no partner.  All
of them ask for the wallet first, and nothing comes of any before it has been answered. -/
theorem nothing_sent_in_part (order : PaymentOrder) (uid : String) (details : Json.Value)
    (paymentData : Option String) (method value currency : String) :
    (submit order).InEveryRun (SentWhole order)
      ∧ (submitTopUp order).InEveryRun (Contacts (fun wallet => .pay (order.request wallet none))
          fun _ => provided PaymentReply.outcome)
      ∧ (submitTopUp order).InEveryRun (fun requests _ _ => IsUnrouted requests)
      ∧ (submitRedirect uid details paymentData).InEveryRun
          (Contacts (fun wallet => .redirect uid wallet details paymentData)
            fun _ => provided PaymentReply.outcome)
      ∧ (loadInfo method value currency).InEveryRun
          (Contacts (fun wallet => .info method value currency wallet) fun _ => provided .ok)
      ∧ disable.InEveryRun (Contacts (fun wallet => .disable wallet) fun _ => provided .ok) := by
  have topUp : (submitTopUp order).InEveryRun
      (Contacts (fun wallet => .pay (order.request wallet none))
        fun _ => provided PaymentReply.outcome) := by
    rw [submitTopUp_eq]
    exact Dialogue.inEveryRun_of_course fun _ _ _ => contacts_of_course nofun
  refine ⟨Dialogue.inEveryRun_of_course fun _ _ _ => sentWhole_of_course, topUp,
    fun past run runs => isUnrouted_of_contacts (topUp past run runs), ?_, ?_, ?_⟩
  · rw [submitRedirect_eq]
    exact Dialogue.inEveryRun_of_course fun _ _ _ => contacts_of_course nofun
  · rw [loadInfo_eq]
    exact Dialogue.inEveryRun_of_course fun _ _ _ => contacts_of_course nofun
  · rw [disable_eq]
    exact Dialogue.inEveryRun_of_course fun _ _ _ => contacts_of_course nofun

end Payment

/-! ## Runs of every operation -/

namespace Payment

/-- A payment that is routed to partners. -/
def Sample.order : PaymentOrder where
  method := "paypal"
  payment := .null
  returnUrl := "wallet://return"
  value := .zero
  currency := "EUR"
  package := "com.example"
  transactionType := "INAPP"

/-- What the sample services say of a payment. -/
def Sample.reply : PaymentReply := { uid := some "tx", status := some .completed }

/-- How a payment would look to the sample services. -/
def Sample.info : PaymentInfo where
  paymentMethods := .null
  priceValue := .zero
  priceCurrency := "EUR"
  isStored := true

/-- Services that know the wallet and the address of the maker of the device, if they are given. -/
def Sample.server (wallet oem : Except ServiceError String) : Server
  | .wallet => wallet
  | .partner .store _ => .ok "0x2"
  | .partner .oem _ => oem
  | .pay _ | .redirect _ _ _ _ => .ok reply
  | .info _ _ _ _ => .ok info
  | .disable _ => .ok ()
  | .saveRate _ _ => .ok ()
  | .loadRate _ => .ok none
  | .quote _ _ _ | .limits _ | .forecast _ _ | .methods | .transaction _ _ => .error .noWallet

/-- The maker of the device is looked up faster than the store, and then the payment is sent, if
both have been found. -/
def Sample.routedMoves (oem : Except ServiceError String) : List (Schedule.System.Move Unit) :=
  let server := server (.ok "0x1") oem
  [Schedule.System.Move.step (), .answer 0 server, .step (), .step (), .advance 5, .answer 2 server]
    ++ match oem with
      | .ok _ => [.answer 1 server, .step (), .answer 3 server]
      | .error _ => [.answer 1 server]

/-- The wallet is looked up, and then the provider is asked. -/
def Sample.providerMoves : List (Schedule.System.Move Unit) :=
  let server := server (.ok "0x1") (.error .noWallet)
  [.step (), .answer 0 server, .step (), .advance 5, .answer 1 server]

/-- The wallet is looked up in vain. -/
def Sample.strandedMoves : List (Schedule.System.Move Unit) :=
  [.step (), .advance 5, .answer 0 (server (.error .noWallet) (.error .noWallet))]

/-- By some run a dialogue has come to a result with these requests, and it has kept to a
condition. -/
def Sample.ComesTo {α : Type} (dialogue : Dialogue α) (requests : List Request) (result : α)
    (keeps : List Request → List Answered → Exchange α → Prop) : Prop :=
  ∃ past run, DialogueRun.Runs dialogue past run ∧ run.requests = requests
    ∧ run.exchange.result? = some result ∧ keeps run.requests (DialogueRun.heard past) run.exchange

/-- What moves lead to is what a run comes to. -/
theorem Sample.comesTo_of_moves {α : Type} {dialogue : Dialogue α} {requests : List Request}
    {result : α} {keeps : List Request → List Answered → Exchange α → Prop} {run : DialogueRun α}
    (holds : dialogue.InEveryRun keeps) (moves : List (Schedule.System.Move Unit))
    (made : moves.foldlM (DialogueRun.system α).move { exchange := .ready dialogue } = some run)
    (requests_eq : run.requests = requests) (result_eq : run.exchange.result? = some result) :
    ComesTo dialogue requests result keeps := by
  obtain ⟨past, reached, _⟩ := Reaches.of_foldlM made
  have runs : DialogueRun.Runs dialogue past run := ⟨0, reached⟩
  exact ⟨past, run, runs, requests_eq, result_eq, holds past run runs⟩

theorem nothing_sent_in_part_of_sample :
    Sample.ComesTo (submit Sample.order)
        [.wallet, .partner .store "com.example", .partner .oem "com.example",
          .pay (Sample.order.request "0x1" (some ⟨"0x2", "0x3"⟩))]
        (.ok (.finished "tx" .completed)) (SentWhole Sample.order)
      ∧ Sample.ComesTo (submit Sample.order)
          [.wallet, .partner .store "com.example", .partner .oem "com.example"]
          (.error (.routingAddress .oem .noWallet)) (SentWhole Sample.order)
      ∧ Sample.ComesTo (submit Sample.order) [.wallet] (.error (.identity .noWallet))
          (SentWhole Sample.order)
      ∧ Sample.ComesTo (submitTopUp Sample.order)
          [.wallet, .pay (Sample.order.request "0x1" none)] (.ok (.finished "tx" .completed))
          (Contacts (fun wallet => .pay (Sample.order.request wallet none))
            fun _ => provided PaymentReply.outcome)
      ∧ Sample.ComesTo (submitRedirect "tx" .null none) [.wallet, .redirect "tx" "0x1" .null none]
          (.ok (.finished "tx" .completed))
          (Contacts (fun wallet => .redirect "tx" wallet .null none)
            fun _ => provided PaymentReply.outcome)
      ∧ Sample.ComesTo (loadInfo "paypal" "10" "EUR") [.wallet, .info "paypal" "10" "EUR" "0x1"]
          (.ok Sample.info)
          (Contacts (fun wallet => .info "paypal" "10" "EUR" wallet) fun _ => provided .ok)
      ∧ Sample.ComesTo disable [.wallet, .disable "0x1"] (.ok ())
          (Contacts (fun wallet => .disable wallet) fun _ => provided .ok)
      ∧ Sample.ComesTo disable [.wallet] (.error (.identity .noWallet))
          (Contacts (fun wallet => .disable wallet) fun _ => provided .ok) := by
  obtain ⟨whole, topUp, _, redirect, info, forget⟩ :=
    nothing_sent_in_part Sample.order "tx" .null none "paypal" "10" "EUR"
  refine ⟨?_, ?_, ?_, ?_, ?_, ?_, ?_, ?_⟩
  · exact Sample.comesTo_of_moves whole (Sample.routedMoves (.ok "0x3")) rfl rfl rfl
  · exact Sample.comesTo_of_moves whole (Sample.routedMoves (.error .noWallet)) rfl rfl rfl
  · exact Sample.comesTo_of_moves whole Sample.strandedMoves rfl rfl rfl
  · exact Sample.comesTo_of_moves topUp Sample.providerMoves rfl rfl rfl
  · exact Sample.comesTo_of_moves redirect Sample.providerMoves rfl rfl rfl
  · exact Sample.comesTo_of_moves info Sample.providerMoves rfl rfl rfl
  · exact Sample.comesTo_of_moves forget Sample.providerMoves rfl rfl rfl
  · exact Sample.comesTo_of_moves forget Sample.strandedMoves rfl rfl rfl

end Payment

end WalletTopUp
