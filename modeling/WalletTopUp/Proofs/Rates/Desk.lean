import WalletTopUp.Proofs.History
import WalletTopUp.Proofs.Rates.Table
import WalletTopUp.Proofs.Service.Course
import WalletTopUp.Rates.Desk

/-!
# Runs of a desk

In every run of a desk each inquiry takes the course of its own dialogue
(`Desk.follows_of_reaches`), and the store holds what it held at the start with everything that has
been saved since (`Desk.table_of_reaches`).
-/

namespace WalletTopUp

/-! ## Stores that work -/

namespace RateStore

/-- What a store that works holds. -/
def table? : RateStore → Option RateTable
  | memory table => some table
  | file cache _ => some cache.table
  | _ => none

/-- What is to be stored for a request. -/
def record? (time : Timestamp) : Request → Option RateRecord
  | .saveRate key money => some ⟨key, .ofMoney money time⟩
  | _ => none

variable {store : RateStore} {table : RateTable}

/-- A store with a table loads what the table has. -/
theorem load_of_table? (works : store.table? = some table) (key : RateKey) :
    store.load key = .ok (table.find? key) := by
  cases store with
  | memory held => exact Option.some.inj works ▸ rfl
  | file cache disk => exact Option.some.inj works ▸ rfl
  | nowhere | refusing _ => cases works

/-- Whoever has a table is a store. -/
theorem isStore_of_table? (works : store.table? = some table) : store.isStore = true := by
  cases store with
  | memory held | file cache disk => rfl
  | nowhere | refusing _ => cases works

/-- A store that works keeps what it is asked to save. -/
theorem table?_heed (works : store.table? = some table) (time : Timestamp) (request : Request) :
    (store.heed time request).table? = some (table.storing (record? time request).toList) := by
  cases request with
  | saveRate key money =>
      cases store with
      | memory held => exact Option.some.inj works ▸ rfl
      | file cache disk => exact Option.some.inj works ▸ rfl
      | nowhere | refusing _ => cases works
  | _ => exact works

/-- What a store holds in memory does not depend on the disk. -/
theorem table?_onDisk (store : RateStore) (disk : Disk) :
    (store.onDisk disk).table? = store.table? := by
  cases store <;> rfl

/-- A store stays one whatever it is asked. -/
theorem isStore_heed (store : RateStore) (time : Timestamp) (request : Request) :
    (store.heed time request).isStore = store.isStore := by
  cases request with
  | saveRate key money => cases store <;> rfl
  | _ => rfl

/-- A store stays one whatever becomes of the disk. -/
theorem isStore_onDisk (store : RateStore) (disk : Disk) :
    (store.onDisk disk).isStore = store.isStore := by
  cases store <;> rfl

end RateStore

namespace Desk

/-- What has happened at a desk, the latest first. -/
abbrev History : Type := List (Moment Desk Move)

variable {desk next : Desk} {store : RateStore} {past : History} {number : Nat}

/-! ## What happens in a moment -/

/-- The request that an inquiry makes in a moment. -/
def asked? (number : Nat) (moment : Moment Desk Move) : Option Request :=
  match moment.event with
  | .ask other _ => if other = number then (moment.before.ask? number).map Prod.fst else none
  | _ => none

/-- The answer that an inquiry hears in a moment. -/
def answered? (number : Nat) (moment : Moment Desk Move) : Option Answered :=
  match moment.event with
  | .answer other others =>
    if other = number then
      moment.before.entries[number]?.bind fun entry =>
        entry.exchange.answered? number (moment.before.store.answering others)
    else none
  | _ => none

/-- What is saved in a moment. -/
def saved? (moment : Moment Desk Move) : Option RateRecord :=
  match moment.event with
  | .ask number time =>
    (moment.before.ask? number).bind fun made => RateStore.record? time made.1
  | _ => none

/-- The requests that an inquiry has made, in order. -/
def requests (number : Nat) (past : History) : List Request :=
  (past.filterMap (asked? number)).reverse

/-- The answers that an inquiry has heard, in order. -/
def heard (number : Nat) (past : History) : List Answered :=
  (past.filterMap (answered? number)).reverse

/-- What has been saved, in order. -/
def saves (past : History) : List RateRecord := (past.filterMap saved?).reverse

/-! ## One move -/

/-- A conversion that asks something is one of those at the desk. -/
theorem entry_of_ask? {request : Request} {exchange : Exchange ConversionResult}
    (asks : desk.ask? number = some (request, exchange)) :
    ∃ entry resume, desk.entries[number]? = some entry
      ∧ entry.exchange.ask? = some (request, resume) ∧ exchange = resume number := by
  obtain ⟨entry, found, mapped⟩ := Option.bind_eq_some_iff.mp asks
  obtain ⟨⟨_, resume⟩, own, same⟩ := Option.map_eq_some_iff.mp mapped
  cases same
  exact ⟨entry, resume, found, own, rfl⟩

/-- When one conversion goes on, the others stay as they are. -/
theorem entries_goOn (desk : Desk) (number other : Nat) (exchange : Exchange ConversionResult) :
    (desk.goOn number exchange).entries[other]?
      = if number = other then desk.entries[other]?.map fun entry => { entry with exchange }
        else desk.entries[other]? := by
  rw [goOn, List.getElem?_modify]
  split
  · rfl
  · simp

/-- How far an inquiry has got with its requests and their answers. -/
def Follows (past : History) (desk : Desk) (number : Nat) : Prop :=
  match desk.entries[number]? with
  | none => requests number past = [] ∧ heard number past = []
  | some entry =>
    (entry.inquiry.dialogue desk.converter).Course (requests number past) (heard number past)
      entry.exchange

/-- The store goes with what has been saved, and stays a store or none. -/
theorem store_of_move {event : Move} (moved : desk.move event = some next) :
    next.converter = desk.converter
      ∧ ∀ table, desk.store.table? = some table →
        next.store.table? = some (table.storing (saved? ⟨desk, event⟩).toList) := by
  cases event with
  | begin inquiry =>
      obtain rfl := Option.some.inj moved
      exact ⟨rfl, fun table works => works⟩
  | ask number time =>
      obtain ⟨⟨request, exchange⟩, asks, rfl⟩ := Option.map_eq_some_iff.mp moved
      have saves : saved? ⟨desk, .ask number time⟩ = RateStore.record? time request := by
        simp only [saved?, asks, Option.bind_some]
      rw [saves]
      refine ⟨congrArg Converter.mk (RateStore.isStore_heed _ _ _), fun table works => ?_⟩
      exact RateStore.table?_heed works time request
  | answer number others =>
      obtain ⟨entry, _, rfl⟩ := Option.map_eq_some_iff.mp moved
      exact ⟨rfl, fun table works => works⟩
  | write disk =>
      obtain rfl := Option.some.inj moved
      refine ⟨congrArg Converter.mk (RateStore.isStore_onDisk _ _), fun table works => ?_⟩
      exact (RateStore.table?_onDisk _ _).trans works

/-! ## Whole runs -/

/-- **A store that works holds what it held at the start and all saves since.** -/
theorem table_of_reaches {table : RateTable} (works : store.table? = some table)
    (reached : Reaches move ⟨store, []⟩ past desk) :
    desk.store.table? = some (table.storing (saves past)) := by
  induction reached with
  | start => exact works
  | @step past middle result event _ moved ih =>
      rw [(store_of_move moved).2 _ ih, saves, saves, reverse_filterMap_cons,
        RateTable.storing_append]

/-- A moment adds what a conversion asks then. -/
theorem requests_cons (number : Nat) (moment : Moment Desk Move) (past : History) :
    requests number (moment :: past) = requests number past ++ (asked? number moment).toList :=
  reverse_filterMap_cons _ _ _

/-- A moment adds what a conversion hears then. -/
theorem heard_cons (number : Nat) (moment : Moment Desk Move) (past : History) :
    heard number (moment :: past) = heard number past ++ (answered? number moment).toList :=
  reverse_filterMap_cons _ _ _

/-- A move that neither asks nor answers for an inquiry leaves it where it is. -/
theorem follows_of_idle {event : Move}
    (follows : Follows past desk number)
    (converter : next.converter = desk.converter)
    (same : next.entries[number]? = desk.entries[number]?)
    (unasked : asked? number ⟨desk, event⟩ = none)
    (unanswered : answered? number ⟨desk, event⟩ = none) :
    Follows (⟨desk, event⟩ :: past) next number := by
  simp only [Follows, requests_cons, heard_cons, unasked, unanswered, Option.toList_none,
    List.append_nil, same, converter]
  exact follows

/-- A new inquiry has neither asked nor heard anything, and the others stay where they are. -/
theorem Follows.begin {inquiry : Inquiry}
    (follows : Follows past desk number)
    (moved : desk.move (.begin inquiry) = some next) :
    Follows (⟨desk, .begin inquiry⟩ :: past) next number := by
  have converter := (store_of_move moved).1
  obtain rfl := Option.some.inj moved
  rcases Nat.lt_trichotomy number desk.entries.length with old | rfl | free
  · exact follows_of_idle follows converter (List.getElem?_append_left old) rfl rfl
  · have empty : desk.entries[desk.entries.length]? = none :=
      List.getElem?_eq_none (Nat.le_refl _)
    rw [Follows, empty] at follows
    simp only [Follows, List.getElem?_concat_length, requests_cons, heard_cons, follows.1,
      follows.2]
    exact .here
  · refine follows_of_idle follows converter ?_ rfl rfl
    rw [List.getElem?_eq_none (Nat.le_of_lt free), List.getElem?_eq_none]
    rw [List.length_append]
    exact free

/-- A conversion stays on its course when any of them asks something. -/
theorem Follows.ask {other : Nat} {time : Timestamp}
    (follows : Follows past desk number)
    (moved : desk.move (.ask other time) = some next) :
    Follows (⟨desk, .ask other time⟩ :: past) next number := by
  have converter := (store_of_move moved).1
  obtain ⟨⟨request, exchange⟩, asks, rfl⟩ := Option.map_eq_some_iff.mp moved
  by_cases own : other = number
  · subst own
    obtain ⟨entry, resume, found, asksNext, rfl⟩ := entry_of_ask? asks
    rw [Follows, found] at follows
    have made : asked? other ⟨desk, .ask other time⟩ = some request := by
      simp only [asked?, asks, if_true, Option.map_some]
    have silent : answered? other ⟨desk, .ask other time⟩ = none := rfl
    simp only [Follows, entries_goOn, if_true, found, Option.map_some, requests_cons,
      heard_cons, made, silent, Option.toList_some, Option.toList_none, List.append_nil]
    rw [converter]
    exact follows.ask asksNext other
  · refine follows_of_idle follows converter ?_ (if_neg own) rfl
    exact (entries_goOn _ _ _ _).trans (if_neg own)

/-- A conversion stays on its course when any of them is answered. -/
theorem Follows.answer {other : Nat} {others : Server}
    (follows : Follows past desk number)
    (moved : desk.move (.answer other others) = some next) :
    Follows (⟨desk, .answer other others⟩ :: past) next number := by
  have converter := (store_of_move moved).1
  obtain ⟨entry, found, rfl⟩ := Option.map_eq_some_iff.mp moved
  by_cases own : other = number
  · subst own
    rw [Follows, found] at follows
    have heardThen : answered? other ⟨desk, .answer other others⟩
        = entry.exchange.answered? other (desk.store.answering others) := by
      simp only [answered?, found, if_true, Option.bind_some]
    have unasked : asked? other ⟨desk, .answer other others⟩ = none := rfl
    simp only [Follows, entries_goOn, if_true, found, Option.map_some, requests_cons,
      heard_cons, heardThen, unasked, Option.toList_none, List.append_nil]
    exact follows.hear other _
  · refine follows_of_idle follows converter ?_ rfl (if_neg own)
    exact (entries_goOn _ _ _ _).trans (if_neg own)

/-- A conversion stays on its course with every move. -/
theorem Follows.move {event : Move}
    (follows : Follows past desk number)
    (moved : desk.move event = some next) : Follows (⟨desk, event⟩ :: past) next number := by
  cases event with
  | begin inquiry => exact follows.begin moved
  | ask other time => exact follows.ask moved
  | answer other others => exact follows.answer moved
  | write disk =>
      have converter := (store_of_move moved).1
      obtain rfl := Option.some.inj moved
      exact follows_of_idle follows converter rfl rfl rfl

/-- **Every inquiry of a desk takes the course of its dialogue.** -/
theorem follows_of_reaches (reached : Reaches move ⟨store, []⟩ past desk) (number : Nat) :
    Follows past desk number := by
  induction reached with
  | start => exact ⟨rfl, rfl⟩
  | step _ moved ih => exact ih.move moved

end Desk

end WalletTopUp
