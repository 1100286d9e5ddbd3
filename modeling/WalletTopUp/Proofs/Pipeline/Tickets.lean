import WalletTopUp.Proofs.Pipeline.Turn

/-!
# Tickets

A ticket is outstanding from the moment its work begins until its result is taken: first the work is
in flight, then its result is queued.  Every ticket is outstanding at most once, no outstanding
ticket is newer than the latest one, and work in flight is always work for the latest one
(`SwitchLatest.IsAccounted`).  So whether the latest ticket is outstanding says all that its holder
has to know about the background: `Pipeline.Converting` and `Pipeline.Forecasting`.

`Pipeline.Accounted` is the invariant of a pipeline, which also counts the reports of limits.
-/

namespace WalletTopUp

variable {α : Type}

namespace SwitchLatest

/-- The tickets of the work in flight and of the results that are queued. -/
def outstanding (latest : SwitchLatest (Ticketed α)) (reported : List Ticket) : List Ticket :=
  (latest.current.map Ticketed.ticket).toList ++ reported

/-- Where the tickets of a series of requests are.  `reported` are those of the queued results. -/
structure IsAccounted (latest : SwitchLatest (Ticketed α)) (reported : List Ticket) : Prop where
  /-- Work in flight is work for the latest request. -/
  current : ∀ work, latest.current = some work → work.ticket = latest.ticket
  issued : ∀ ticket ∈ reported, ticket.number ≤ latest.sequence
  distinct : (latest.outstanding reported).Nodup

variable {latest : SwitchLatest (Ticketed α)} {reported : List Ticket} {work : Ticketed α}

/-- A ticket is current if it is the last one that was given out. -/
theorem isCurrent_iff {ticket : Ticket} :
    latest.isCurrent ticket = true ↔ ticket = latest.ticket := by
  cases ticket
  simp only [isCurrent, SwitchLatest.ticket, beq_iff_eq, Ticket.mk.injEq]

/-- A ticket is outstanding if its work goes on or its result is reported. -/
theorem mem_outstanding {ticket : Ticket} :
    ticket ∈ latest.outstanding reported ↔
      (∃ work, latest.current = some work ∧ work.ticket = ticket) ∨ ticket ∈ reported := by
  simp only [outstanding, List.mem_append, Option.mem_toList, Option.map_eq_some_iff]

namespace IsAccounted

/-- No ticket is reported twice. -/
theorem distinct_reported (accounted : latest.IsAccounted reported) : reported.Nodup :=
  (List.nodup_append.mp accounted.distinct).2.1

/-- The ticket that comes next has not been reported. -/
theorem unreported (accounted : latest.IsAccounted reported) : latest.cancel.ticket ∉ reported := by
  intro member
  have bound := accounted.issued _ member
  simp only [SwitchLatest.ticket, cancel] at bound
  omega

/-- Before any work was begun, every ticket is accounted for. -/
theorem start : (({} : SwitchLatest (Ticketed α))).IsAccounted [] where
  current _ same := by cases same
  issued _ member := by cases member
  distinct := List.nodup_nil

/-- Cancelling keeps the tickets accounted for. -/
theorem cancel (accounted : latest.IsAccounted reported) : latest.cancel.IsAccounted reported where
  current _ same := by cases same
  issued ticket member := Nat.le_succ_of_le (accounted.issued ticket member)
  distinct := accounted.distinct_reported

/-- After a cancellation the latest ticket is not outstanding. -/
theorem not_outstanding_cancel (accounted : latest.IsAccounted reported) :
    latest.cancel.ticket ∉ latest.cancel.outstanding reported :=
  accounted.unreported

/-- A new request. -/
theorem begin (accounted : latest.IsAccounted reported) (exchange : Exchange α) :
    (latest.begin.1.attach ⟨latest.begin.2, exchange⟩).IsAccounted reported where
  current work same := by
    obtain rfl := Option.some.inj same
    rfl
  issued ticket member := Nat.le_succ_of_le (accounted.issued ticket member)
  distinct := List.nodup_cons.mpr ⟨accounted.unreported, accounted.distinct_reported⟩

/-- Work that has moved on under its ticket. -/
theorem attach (accounted : latest.IsAccounted reported)
    (current : latest.current = some work) (exchange : Exchange α) :
    (latest.attach { work with exchange }).IsAccounted reported where
  current work' same := by
    obtain rfl := Option.some.inj same
    exact accounted.current work current
  issued := accounted.issued
  distinct := by
    have distinct := accounted.distinct
    simp only [outstanding, current, Option.map_some] at distinct
    exact distinct

/-- Work that finishes keeps the tickets accounted for. -/
theorem finish (accounted : latest.IsAccounted reported) : latest.finish.IsAccounted reported where
  current _ same := by cases same
  issued := accounted.issued
  distinct := accounted.distinct_reported

/-- Work that ends with a report. -/
theorem report (accounted : latest.IsAccounted reported) (current : latest.current = some work) :
    latest.finish.IsAccounted (reported ++ [work.ticket]) where
  current _ same := by cases same
  issued ticket member := by
    rcases List.mem_append.mp member with queued | own
    · exact accounted.issued ticket queued
    · rw [List.mem_singleton.mp own, accounted.current work current]
      exact Nat.le_refl _
  distinct := by
    have distinct := accounted.distinct
    simp only [outstanding, current, Option.map_some, Option.toList_some,
      List.singleton_append] at distinct
    exact (List.perm_append_singleton work.ticket reported).nodup_iff.mpr distinct

/-- Taking a result. -/
theorem take {ticket : Ticket} {rest : List Ticket}
    (accounted : latest.IsAccounted (ticket :: rest)) : latest.IsAccounted rest where
  current := accounted.current
  issued other member := accounted.issued other (List.mem_cons_of_mem _ member)
  distinct := accounted.distinct.sublist
    (List.Sublist.append (List.Sublist.refl _) (List.sublist_cons_self _ _))

/-- A result that has been taken is not outstanding any more. -/
theorem not_outstanding_take {ticket : Ticket} {rest : List Ticket}
    (accounted : latest.IsAccounted (ticket :: rest)) : ticket ∉ latest.outstanding rest := by
  have distinct := (List.perm_middle.nodup_iff).mp accounted.distinct
  exact (List.nodup_cons.mp distinct).1

/-- Work that has heard an answer. -/
theorem hearWork (accounted : latest.IsAccounted reported) (call : CallId) (server : Server) :
    (Pipeline.hearWork call server latest).IsAccounted reported := by
  cases current : latest.current with
  | none =>
      have same : Pipeline.hearWork call server latest = latest := by
        simp only [Pipeline.hearWork, current, Option.map_none]
        rw [← current]
      rw [same]
      exact accounted
  | some work =>
      have same : Pipeline.hearWork call server latest =
          latest.attach { work with exchange := work.exchange.hear call server } := by
        simp only [Pipeline.hearWork, current, Option.map_some, SwitchLatest.attach]
      rw [same]
      exact accounted.attach current _

end IsAccounted

end SwitchLatest

namespace Completion

/-- The ticket of a conversion's report. -/
def conversion? : Completion → Option Ticket
  | converted ticket _ => some ticket
  | _ => none

/-- The ticket of a forecast's report. -/
def bonus? : Completion → Option Ticket
  | bonusLoaded ticket _ => some ticket
  | _ => none

/-- Whether a completion reports limits. -/
def isLimits : Completion → Bool
  | limitsLoaded _ => true
  | _ => false

end Completion

/-- How many reports of limits are queued. -/
def LimitsLoad.reports : LimitsLoad → Nat
  | reported => 1
  | _ => 0

namespace Pipeline

/-- The tickets of the queued conversions. -/
def reportedConversions (pipeline : Pipeline) : List Ticket :=
  pipeline.completions.filterMap Completion.conversion?

/-- The tickets of the queued forecasts. -/
def reportedBonuses (pipeline : Pipeline) : List Ticket :=
  pipeline.completions.filterMap Completion.bonus?

/-- The latest conversion is in flight or its result is queued. -/
def Converting (pipeline : Pipeline) : Prop :=
  pipeline.conversions.ticket ∈ pipeline.conversions.outstanding pipeline.reportedConversions

/-- The latest forecast is in flight or its result is queued. -/
def Forecasting (pipeline : Pipeline) : Prop :=
  pipeline.bonuses.ticket ∈ pipeline.bonuses.outstanding pipeline.reportedBonuses

/-- Every ticket and every report of limits is where it should be. -/
structure Accounted (pipeline : Pipeline) : Prop where
  conversions : pipeline.conversions.IsAccounted pipeline.reportedConversions
  bonuses : pipeline.bonuses.IsAccounted pipeline.reportedBonuses
  /-- A pipeline that has been shut down drops the load and leaves the report where it is. -/
  limits : pipeline.running = true →
    pipeline.completions.countP Completion.isLimits = pipeline.limits.reports

end Pipeline

end WalletTopUp
