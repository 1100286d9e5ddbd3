import WalletTopUp.Proofs.Amount.Number
import WalletTopUp.Proofs.Decimal.Flooring
import WalletTopUp.Proofs.Rates.Desk
import WalletTopUp.Proofs.Rates.Requests
import WalletTopUp.Service.Name

/-!
# What the store serves

The broker is asked for the text of an amount, and the answer is stored under the number that this
text denotes.  So any other text of the number finds it (`Converter.Denotes.rateKey`), and rounding
down once more gives what the broker's answer comes to at fewer places.  In every run of a desk the
store serves the last answer of the broker for this number (`Desk.lookUp_of_lastConverted`), and no
other number sees it (`Desk.lookUp_of_other_number`).
-/

namespace WalletTopUp

-- A statement about what a conversion asks for must not be decided by reading the amount.
attribute [local irreducible] Amount.isNonNegative

/-! ## Answers that come at once -/

namespace Dialogue

variable {α β : Type}

/-- A world that answers at once answers a dialogue and then what comes after it. -/
theorem answeredBy_bind (server : Server) (dialogue : Dialogue α) (f : α → Dialogue β) :
    (dialogue.bind f).answeredBy server = (f (dialogue.answeredBy server)).answeredBy server := by
  induction dialogue with
  | done result => rfl
  | call request resume ih => exact ih _
  | both first second firstFailed secondFailed resume ihFirst ihSecond ih =>
      rw [bind, answeredBy, answeredBy]
      split
      · exact ihFirst _
      · exact ihSecond _
      · exact ih _ _

end Dialogue

/-! ## Texts of amounts -/

/-- A key for a number of tokens. -/
structure RateKey.IsTokens (key : RateKey) (value : Decimal) : Prop where
  direction : key.direction = .appcToFiat
  amount : key.sourceAmount.toRat = value.toRat

/-- Keys of tokens are one exactly if their amounts are one number. -/
theorem RateKey.IsTokens.sameKey_iff {first second : RateKey} {value other : Decimal}
    (left : first.IsTokens value)
    (right : second.IsTokens other) :
    first.sameKey second = true ↔ value.toRat = other.toRat := by
  rw [RateKey.sameKey_iff, Decimal.sameNumber_iff_toRat, left.amount, right.amount, left.direction,
    right.direction]
  exact and_iff_right rfl

namespace Converter

variable {converter : Converter} {text : String} {value : Decimal} {key : RateKey} {scale : Nat}

/-- A text is, without the blanks around it, an amount, and the amount is the number of a
decimal. -/
structure Denotes (text : String) (value : Decimal) : Prop where
  nonNegative : Amount.isNonNegative (trimmed text) = true
  number : value.toRat = Amount.number (trimmed text).toList

/-- **All texts of a number have the key of this number.** -/
theorem Denotes.rateKey (denotes : Denotes text value) :
    ∃ key, rateKey .appcToFiat text = .ok key ∧ key.IsTokens value := by
  obtain ⟨read, reads, same⟩ := Amount.exists_ofText? denotes.nonNegative denotes.number
  refine ⟨⟨.appcToFiat, read.normalize⟩, ?_, rfl, (Decimal.toRat_normalize read).trans same⟩
  simp only [Converter.rateKey, denotes.nonNegative, reads, Bool.not_true, Bool.false_eq_true,
    if_false]

/-! ## The dialogues -/

/-- How a conversion ends with the broker's answer. -/
def quoted (scale : Nat) (answer : Except ServiceError Quote) : ConversionResult :=
  (answer.mapError .service).map (roundQuote scale)

/-- A conversion of an amount that is not negative asks the broker and rounds the quote. -/
theorem convert_of_nonNegative {source : String} {target : Option String}
    (nonNegative : Amount.isNonNegative (trimmed text) = true)
    (places : scale ≤ Decimal.maxScale) :
    convert text source target scale
      = .call (.quote source (trimmed text) target) fun answer => .done (quoted scale answer) := by
  simp only [convert, nonNegative, Bool.not_true, Bool.false_eq_true, if_false,
    if_neg (Nat.not_lt.mpr places)]
  refine congrArg (Dialogue.call _) (funext fun answer => ?_)
  cases answer <;> rfl

/-- With a store a result is saved under its key. -/
theorem store_of_key {direction : RateDirection} (stores : converter.stores = true)
    (keyed : rateKey direction text = .ok key) (money : Money) :
    converter.store direction text money = .call (.saveRate key money) fun _ => .done () := by
  simp only [store, stores, keyed, Bool.not_true, Bool.false_eq_true, if_false]

/-- What a conversion comes to that is to be found in the store. -/
def found (key : RateKey) (scale : Nat) : Except CacheError (Option Money) → ConversionResult
  | .error error => .error (.cache error)
  | .ok none => .error (.notCached key.direction key.sourceAmount)
  | .ok (some money) => .ok { money with amount := money.amount.floorToScale scale }

/-- With a store the stored result is loaded and rounded, and nobody else is asked. -/
theorem storedTokenToLocal_eq (stores : converter.stores = true)
    (keyed : rateKey .appcToFiat text = .ok key)
    (places : scale ≤ Decimal.maxScale) :
    converter.storedTokenToLocal text scale
      = .call (.loadRate key) fun answer => .done (found key scale answer) := by
  simp only [storedTokenToLocal, if_neg (Nat.not_lt.mpr places), keyed, stores, Bool.not_true,
    Bool.false_eq_true, if_false]
  refine congrArg (Dialogue.call _) (funext fun answer => ?_)
  rcases answer with _ | _ | _ <;> rfl

/-- Looking for a stored conversion asks nobody but the store. -/
theorem allRequests_storedTokenToLocal (converter : Converter) (text : String) (scale : Nat) :
    (converter.storedTokenToLocal text scale).AllRequests fun request =>
      ∃ key, request = .loadRate key := by
  unfold storedTokenToLocal
  split
  · trivial
  · split
    · trivial
    · next key _ =>
        dsimp only
        split
        · trivial
        · refine ⟨⟨key, rfl⟩, ?_⟩
          intro answer
          rcases answer with _ | _ | _ <;> trivial

/-- **What the store answers to a save makes no difference**, and neither does an amount that has
no key. -/
theorem answeredBy_convertAndStore (converter : Converter) (direction : RateDirection)
    (source amount : String) (scale : Nat) (server : Server) :
    (converter.convertAndStore direction source amount scale).answeredBy server
      = (convert amount source none scale).answeredBy server := by
  rw [convertAndStore, Dialogue.andThen, Dialogue.answeredBy_bind]
  cases (convert amount source none scale).answeredBy server with
  | error error => rfl
  | ok money => exact Dialogue.answeredBy_bind _ _ _

/-- A conversion of tokens that has succeeded has heard the broker and has asked the store to keep
what came of it. -/
theorem saved_of_course {requests : List Request} {heard : List Answered}
    {exchange : Exchange ConversionResult} {money : Money}
    (denotes : Denotes text value)
    (stores : converter.stores = true)
    (keyed : Converter.rateKey .appcToFiat text = .ok key)
    (course : (converter.tokenToLocal text scale).Course requests heard exchange)
    (succeeded : exchange.result? = some (.ok money)) :
    ∃ quote, ⟨.quote tokenCode (trimmed text) none, .ok quote⟩ ∈ heard
      ∧ money = roundQuote scale quote ∧ .saveRate key money ∈ requests
      ∧ scale ≤ Decimal.maxScale := by
  by_cases places : scale ≤ Decimal.maxScale
  · simp only [tokenToLocal, convertAndStore, convert_of_nonNegative denotes.nonNegative places,
      Dialogue.andThen, Dialogue.bind_call, Dialogue.bind_done] at course
    cases course with
    | here => cases succeeded
    | waiting => cases succeeded
    | @call _ _ answer _ _ _ rest =>
        cases answer with
        | error error =>
            cases rest with
            | here => cases succeeded
        | ok quote =>
            simp only [quoted, Except.mapError, Except.map, store_of_key stores keyed,
              Dialogue.bind_call, Dialogue.bind_done] at rest
            cases rest with
            | here => cases succeeded
            | waiting => cases succeeded
            | call rest =>
                cases rest with
                | here =>
                    obtain rfl := Except.ok.inj (Option.some.inj succeeded)
                    exact ⟨quote, by simp, rfl, by simp, places⟩
  · have refused : converter.tokenToLocal text scale = .done (.error (.invalidScale scale)) := by
      simp only [tokenToLocal, convertAndStore, convert, denotes.nonNegative, Bool.not_true,
        Bool.false_eq_true, if_false, if_pos (Nat.lt_of_not_le places), Dialogue.andThen,
        Dialogue.bind_done]
    rw [refused] at course
    cases course with
    | here => cases succeeded

end Converter

namespace Desk

open Converter (Denotes)

variable {desk after : Desk} {store : RateStore} {past : History}
  {moment : Moment Desk Move} {number scale : Nat} {text : String} {value : Decimal} {key : RateKey}

/-! ## Looking into the store -/

/-- Looking up gives what the store finds under the key. -/
theorem lookUp_eq (stores : desk.converter.stores = true)
    (keyed : Converter.rateKey .appcToFiat text = .ok key)
    (places : scale ≤ Decimal.maxScale) (others : Server) :
    desk.lookUp text scale others
      = Converter.found key scale
          ((desk.store.load key).map fun found => found.map CachedRate.money) := by
  rw [lookUp, Converter.storedTokenToLocal_eq stores keyed places]
  rfl

/-- Looking into the store takes three moves, whatever the rest of the world answers. -/
theorem result?_of_lookUp (stores : desk.converter.stores = true)
    (keyed : Converter.rateKey .appcToFiat text = .ok key)
    (places : scale ≤ Decimal.maxScale) (time : Timestamp) (others : Server) :
    ∃ after,
      [Move.begin (.storedTokenToLocal text scale), .ask desk.entries.length time,
        .answer desk.entries.length others].foldlM move desk = some after
      ∧ after.result? desk.entries.length = some (desk.lookUp text scale others) := by
  rw [lookUp_eq stores keyed places others]
  have begun := Converter.storedTokenToLocal_eq stores keyed places
  simp only [List.foldlM, move, Inquiry.dialogue, begun, ask?, goOn, Exchange.ask?, Exchange.hear,
    RateStore.heed, List.getElem?_concat_length, Option.bind_eq_bind, Option.bind_some,
    Option.map_some, result?]
  simp [RateStore.answering, Exchange.result?]
  rfl

/-- What is found under a key decides what looking into the store comes to. -/
theorem lookUp_congr (same : after.converter = desk.converter)
    (keyed : Converter.rateKey .appcToFiat text = .ok key)
    (loads : after.store.load key = desk.store.load key) (scale : Nat) (others : Server) :
    after.lookUp text scale others = desk.lookUp text scale others := by
  by_cases places : scale ≤ Decimal.maxScale
  · by_cases stores : desk.converter.stores = true
    · have storesAfter : after.converter.stores = true := by rw [same, stores]
      rw [lookUp_eq stores keyed places, lookUp_eq storesAfter keyed places, loads]
    · rw [lookUp, lookUp, same]
      simp only [Converter.storedTokenToLocal, keyed, stores, if_neg (Nat.not_lt.mpr places)]
      rfl
  · rw [lookUp, lookUp, same]
    simp only [Converter.storedTokenToLocal, if_pos (Nat.lt_of_not_le places)]
    rfl

/-! ## What a save leaves as it is -/

/-- What is asked about at the desk has an entry there. -/
theorem entry_of_inquiry? {inquiry : Inquiry} (about : desk.inquiry? number = some inquiry) :
    ∃ exchange, desk.entries[number]? = some ⟨inquiry, exchange⟩ := by
  obtain ⟨entry, found, rfl⟩ := Option.map_eq_some_iff.mp about
  exact ⟨entry.exchange, found⟩

/-- An inquiry for a conversion of tokens saves nothing but conversions of the same number. -/
theorem key_of_saved {record : RateRecord} {time : Timestamp}
    (reached : Reaches move ⟨store, []⟩ past desk)
    (about : desk.inquiry? number = some (.tokenToLocal text scale))
    (denotes : Denotes text value)
    (saved : saved? ⟨desk, .ask number time⟩ = some record) : record.key.IsTokens value := by
  obtain ⟨key, keyed, tokens⟩ := denotes.rateKey
  obtain ⟨⟨request, exchange⟩, asks, recorded⟩ := Option.bind_eq_some_iff.mp saved
  obtain ⟨entry, resume, found, asksNext, rfl⟩ := entry_of_ask? asks
  obtain ⟨_, same⟩ := entry_of_inquiry? about
  obtain rfl := Option.some.inj (found.symm.trans same)
  have follows := follows_of_reaches reached number
  rw [Follows, found] at follows
  have promised : (desk.converter.tokenToLocal text scale).AllRequests fun request =>
      ∀ other money, request = .saveRate other money → other = key := by
    apply Converter.allRequests_tokenToLocal
    · intro amount other money same
      cases same
    · intro third held keyedAs other money same
      obtain ⟨rfl, rfl⟩ := Request.saveRate.inj same
      exact Except.ok.inj (keyedAs.symm.trans keyed)
  have kept := (follows.ask asksNext number).allRequests promised request (by simp)
  cases request with
  | saveRate other money =>
      obtain rfl := Option.some.inj recorded
      exact kept other money rfl ▸ tokens
  | _ => cases recorded

/-- A save under another key changes nothing under a key. -/
theorem load_heed {time : Timestamp} {request : Request}
    (apart : ∀ record, RateStore.record? time request = some record →
      record.key.sameKey key = false) :
    (store.heed time request).load key = store.load key := by
  cases request with
  | saveRate other money =>
      have unlike : other.sameKey key = false := apart _ rfl
      have kept : ∀ table : RateTable,
          (table.insert other (.ofMoney money time)).find? key = table.find? key := by
        intro table
        rw [RateTable.find?_insert, unlike, if_neg Bool.false_ne_true]
      cases store with
      | memory table => exact congrArg Except.ok (kept table)
      | file cache disk => exact congrArg Except.ok (kept cache.table)
      | nowhere | refusing _ => rfl
  | _ => rfl

/-- **A conversion of one number is never seen by another number.** -/
theorem lookUp_of_other_number {other : Decimal} {spelling : String} {time : Timestamp}
    (reached : Reaches move ⟨store, []⟩ past desk)
    (about : desk.inquiry? number = some (.tokenToLocal text scale))
    (moved : desk.move (.ask number time) = some after)
    (denotes : Denotes text value) (spelled : Denotes spelling other)
    (apart : value.toRat ≠ other.toRat) (places : Nat) (others : Server) :
    after.lookUp spelling places others = desk.lookUp spelling places others := by
  obtain ⟨key, keyed, tokens⟩ := spelled.rateKey
  apply lookUp_congr (store_of_move moved).1 keyed
  obtain ⟨⟨request, exchange⟩, asks, rfl⟩ := Option.map_eq_some_iff.mp moved
  apply load_heed
  intro record recorded
  have saved : saved? ⟨desk, .ask number time⟩ = some record := by
    simp only [saved?, asks, Option.bind_some, recorded]
  have mine := key_of_saved reached about denotes saved
  exact Bool.eq_false_iff.mpr fun same => apart ((mine.sameKey_iff tokens).mp same)

/-! ## The last conversion of a number -/

/-- What an inquiry has saved has not been replaced: nothing has been saved under its key since. -/
def LastToSave (number : Nat) (past : History) : Prop :=
  past.Pairwise fun later earlier => (asked? number earlier).isSome = true →
    ∀ old ∈ saved? earlier, ∀ new ∈ saved? later, new.key.sameKey old.key = false

instance (number : Nat) (past : History) : Decidable (LastToSave number past) :=
  inferInstanceAs (Decidable (past.Pairwise _))

/-- An inquiry at a store that works has converted tokens, and nobody has saved a conversion of the
same number of tokens since. -/
structure LastConverted (past : History) (desk : Desk) (number : Nat) (text : String) (scale : Nat)
    (money : Money) : Prop where
  run : ∃ store table, RateStore.table? store = some table ∧ Reaches move ⟨store, []⟩ past desk
  about : desk.inquiry? number = some (.tokenToLocal text scale)
  result : desk.result? number = some (.ok money)
  last : LastToSave number past

/-- What an inquiry has asked the store to keep was saved in some moment. -/
theorem exists_save {money : Money} (asked : .saveRate key money ∈ requests number past) :
    ∃ moment ∈ past, (asked? number moment).isSome = true
      ∧ ∃ time, saved? moment = some ⟨key, .ofMoney money time⟩ := by
  obtain ⟨moment, inside, askedThen⟩ := List.mem_filterMap.mp (List.mem_reverse.mp asked)
  refine ⟨moment, inside, askedThen ▸ rfl, ?_⟩
  obtain ⟨state, event⟩ := moment
  cases event with
  | ask other time =>
      simp only [asked?] at askedThen
      split at askedThen
      · next own =>
          obtain ⟨⟨request, exchange⟩, asks, same⟩ := Option.map_eq_some_iff.mp askedThen
          obtain rfl : request = .saveRate key money := same
          refine ⟨time, ?_⟩
          simp only [saved?, own, asks, Option.bind_some, RateStore.record?]
      · cases askedThen
  | begin _ | answer _ _ | write _ => cases askedThen

/-- A save that has not been replaced is what the table finds under its key. -/
theorem find?_of_lastToSave {record : RateRecord} (table : RateTable)
    (last : LastToSave number past)
    (inside : moment ∈ past)
    (asked : (asked? number moment).isSome = true)
    (saved : saved? moment = some record)
    (same : record.key.sameKey key = true) :
    (table.storing (saves past)).find? key = some record.rate := by
  obtain ⟨later, earlier, rfl⟩ := List.append_of_mem inside
  have kept := (List.pairwise_append.mp last).2.2
  have unseen : (later.filterMap saved?).find? (fun record => record.key.sameKey key) = none := by
    rw [List.find?_eq_none]
    intro new member alike
    obtain ⟨since, after, savedThen⟩ := List.mem_filterMap.mp member
    have apart := kept since after moment List.mem_cons_self asked record saved new savedThen
    rw [RateKey.sameKey_trans alike (RateKey.sameKey_symm same)] at apart
    cases apart
  rw [RateTable.find?_storing, saves, List.reverse_reverse, List.filterMap_append,
    List.find?_append, unseen, List.filterMap_cons_some saved, List.find?_cons, same]
  rfl

/-- **The store serves what the broker has said last**, to every text of the number. -/
theorem lookUp_of_lastConverted {money : Money}
    (converted : LastConverted past desk number text scale money)
    (denotes : Denotes text value) :
    ∃ quote, ⟨.quote tokenCode (Converter.trimmed text) none, .ok quote⟩ ∈ heard number past
      ∧ scale ≤ Decimal.maxScale ∧ money = Converter.roundQuote scale quote
      ∧ ∀ spelling places others, Denotes spelling value → places ≤ scale →
          desk.lookUp spelling places others = .ok (Converter.roundQuote places quote) := by
  obtain ⟨⟨store, table, works, reached⟩, about, result, last⟩ := converted
  obtain ⟨exchange, found⟩ := entry_of_inquiry? about
  obtain ⟨key, keyed, tokens⟩ := denotes.rateKey
  have holds := table_of_reaches works reached
  have stores : desk.converter.stores = true := RateStore.isStore_of_table? holds
  have follows := follows_of_reaches reached number
  rw [Follows, found] at follows
  have ended : exchange.result? = some (.ok money) := by
    rw [result?, found] at result
    exact result
  obtain ⟨quote, heardQuote, rounded, asked, within⟩ :=
    Converter.saved_of_course denotes stores keyed follows ended
  refine ⟨quote, heardQuote, within, rounded, ?_⟩
  intro spelling places others spelled fewer
  obtain ⟨own, keyedOwn, tokensOwn⟩ := spelled.rateKey
  obtain ⟨moment, inside, askedThen, time, saved⟩ := exists_save asked
  have same : key.sameKey own = true := (tokens.sameKey_iff tokensOwn).mpr rfl
  have finds : (table.storing (saves past)).find? own = some (.ofMoney money time) :=
    find?_of_lastToSave table last inside askedThen saved same
  have fits : places ≤ Decimal.maxScale := fewer.trans within
  rw [lookUp_eq stores keyedOwn fits, RateStore.load_of_table? holds, finds, rounded]
  apply congrArg (fun amount => Except.ok (Money.mk amount quote.currency quote.symbol))
  exact quote.value.floorToScale_floorToScale fewer

/-- **What the store serves is what the broker would have said.**  Once an inquiry has converted an
amount of tokens, any text of this number finds what the broker's answer comes to at no more places,
and the broker is not asked.  A text of another number does not see it.  What the store answers to a
save makes no difference to a conversion, whatever its amount. -/
theorem served_as_quoted :
    (∀ past desk number text scale money value,
      LastConverted past desk number text scale money → Denotes text value →
      ∃ quote, ⟨.quote tokenCode (Converter.trimmed text) none, .ok quote⟩ ∈ heard number past
        ∧ money = Converter.roundQuote scale quote
        ∧ ∀ spelling places broker others, Denotes spelling value → places ≤ scale →
            broker (.quote tokenCode (Converter.trimmed text) none) = .ok quote →
            (Converter.convert text tokenCode none places).answeredBy broker
                = .ok (Converter.roundQuote places quote)
              ∧ desk.lookUp spelling places others = .ok (Converter.roundQuote places quote))
    ∧ (∀ (converter : Converter) text scale,
        (converter.storedTokenToLocal text scale).AllRequests fun request =>
          ∃ key, request = .loadRate key)
    ∧ (∀ store past desk after number time text scale value spelling other places others,
        Reaches move ⟨store, []⟩ past desk →
        desk.inquiry? number = some (.tokenToLocal text scale) →
        desk.move (.ask number time) = some after →
        Denotes text value → Denotes spelling other → value.toRat ≠ other.toRat →
        after.lookUp spelling places others = desk.lookUp spelling places others)
    ∧ (∀ (converter : Converter) amount scale server,
        (converter.tokenToLocal amount scale).answeredBy server
            = (Converter.convert amount tokenCode none scale).answeredBy server
          ∧ (converter.etherToLocal amount scale).answeredBy server
            = (Converter.convert amount etherCode none scale).answeredBy server) := by
  refine ⟨?_, ?_, ?_, ?_⟩
  · intro past desk number text scale money value converted denotes
    obtain ⟨quote, heardQuote, within, rounded, serves⟩ :=
      lookUp_of_lastConverted converted denotes
    refine ⟨quote, heardQuote, rounded, ?_⟩
    intro spelling places broker others spelled fewer answers
    refine ⟨?_, serves spelling places others spelled fewer⟩
    rw [Converter.convert_of_nonNegative denotes.nonNegative (fewer.trans within),
      Dialogue.answeredBy, answers]
    rfl
  · exact Converter.allRequests_storedTokenToLocal
  · intro store past desk after number time text scale value spelling other places others reached
      about moved denotes spelled apart
    exact lookUp_of_other_number reached about moved denotes spelled apart places others
  · intro converter amount scale server
    exact ⟨Converter.answeredBy_convertAndStore _ _ _ _ _ _,
      Converter.answeredBy_convertAndStore _ _ _ _ _ _⟩

namespace Sample

/-- A decimal of small parts. -/
def small (mantissa scale : Nat) : Decimal := (Decimal.ofParts? false mantissa scale).getD .zero

/-- The broker knows one answer, and the store cannot write anything down. -/
def world (quote : Quote) : Server := fun request =>
  match request with
  | .quote _ _ _ => .ok quote
  | .saveRate _ _ => .error (.io "disk full")
  | other => Server.failing .noWallet other

/-- A world in which a hundred tokens are worth 5.3749 euros. -/
def broker : Server := world ⟨small 53749 4, "EUR", "€"⟩

/-- A hundred tokens have been converted and are about to be saved. -/
def converted : List Move :=
  [.begin (.tokenToLocal " 100" 4), .ask 0 {}, .answer 0 broker]

/-- They are saved, and so is a conversion of ether. -/
def saved : List Move :=
  converted ++ [Move.ask 0 {}, .begin (.etherToLocal "100" 2), .ask 1 {}, .answer 1 broker,
    .ask 1 {}, .answer 0 broker]

theorem hundred : Denotes " 100" (small 100 0) := ⟨by decide +kernel, by decide +kernel⟩

theorem hundredAgain : Denotes "0100.0" (small 100 0) := ⟨by decide +kernel, by decide +kernel⟩

theorem seven : Denotes "7" (small 7 0) := ⟨by decide +kernel, by decide +kernel⟩

end Sample

theorem served_as_quoted_of_hundred :
    (∃ past desk, Reaches move ⟨.memory [], []⟩ past desk
      ∧ desk.result? 0 = some (.ok ⟨Sample.small 53749 4, "EUR", "€"⟩)
      ∧ desk.lookUp "0100.0" 1 Sample.broker = .ok ⟨Sample.small 53 1, "EUR", "€"⟩)
    ∧ ∃ past desk after, Reaches move ⟨.memory [], []⟩ past desk
      ∧ desk.move (.ask 0 {}) = some after ∧ saves (⟨desk, .ask 0 {}⟩ :: past) ≠ []
      ∧ after.lookUp "7" 2 Sample.broker = desk.lookUp "7" 2 Sample.broker := by
  refine ⟨?_, ?_⟩
  · have checked : ∃ reached ∈ Reaches.follow move ⟨.memory [], []⟩ Sample.saved,
        reached.2.inquiry? 0 = some (.tokenToLocal " 100" 4)
          ∧ reached.2.result? 0 = some (.ok ⟨Sample.small 53749 4, "EUR", "€"⟩)
          ∧ LastToSave 0 reached.1 := by decide +kernel
    obtain ⟨⟨past, desk⟩, followed, about, result, last⟩ := checked
    have reached := Reaches.of_follow followed
    refine ⟨past, desk, reached, result, ?_⟩
    obtain ⟨quote, _, rounded, serves⟩ :=
      served_as_quoted.1 past desk 0 " 100" 4 _ _
        ⟨⟨.memory [], [], rfl, reached⟩, about, result, last⟩ Sample.hundred
    have served :=
      (serves "0100.0" 1 (Sample.world quote) Sample.broker Sample.hundredAgain (by decide) rfl).2
    obtain ⟨amount, currency, symbol⟩ := Money.mk.inj rounded
    rw [served, Converter.roundQuote, ← currency, ← symbol,
      ← quote.value.floorToScale_floorToScale (by decide : 1 ≤ 4), ← amount]
    decide +kernel
  · have checked : ∃ reached ∈ Reaches.follow move ⟨.memory [], []⟩ Sample.converted,
        reached.2.inquiry? 0 = some (.tokenToLocal " 100" 4)
          ∧ (reached.2.move (.ask 0 {})).isSome = true
          ∧ saves (⟨reached.2, .ask 0 {}⟩ :: reached.1) ≠ [] := by decide +kernel
    obtain ⟨⟨past, desk⟩, followed, about, possible, saved⟩ := checked
    have reached := Reaches.of_follow followed
    obtain ⟨after, moved⟩ := Option.isSome_iff_exists.mp possible
    refine ⟨past, desk, after, reached, moved, saved, ?_⟩
    exact served_as_quoted.2.2.1 _ past desk after 0 {} " 100" 4 _ "7" _ 2 Sample.broker reached
      about moved Sample.hundred Sample.seven (by decide +kernel)

end Desk

end WalletTopUp
