import WalletTopUp.Proofs.Pipeline.Turn
import WalletTopUp.Proofs.Rates.Requests

/-!
# What a pipeline asks for

Every request of a background task is decided when the task begins, up to the answers it gets on its
way.  So a promise about all requests of a pipeline is kept once it is kept by the tasks that begin
(`Pipeline.asksOnly_of_reaches`).  In particular no background task of a pipeline ever asks for a
payment (`Pipeline.asksFree_of_reaches`).
-/

namespace WalletTopUp

-- A statement about what a conversion asks for must not be decided by reading the amount.
attribute [local irreducible] Amount.isNonNegative

/-- A request that charges nobody. -/
def Request.IsFree (request : Request) : Prop := ∀ payment, request ≠ .pay payment

namespace Converter

/-- Asking for the local currency charges nobody. -/
theorem isFree_localCurrency (converter : Converter) :
    converter.localCurrency.AllRequests Request.IsFree :=
  allRequests_tokenToLocal (fun _ _ same => by cases same) fun _ _ _ _ same => by cases same

end Converter

namespace Pipeline

variable {settings : PipelineSettings} {pipeline next : Pipeline} {past : History}
  {promise promise' : Request → Prop}

/-! ## Promises -/

/-- Every request that a background task may still put out keeps a promise. -/
structure AsksOnly (promise : Request → Prop) (pipeline : Pipeline) : Prop where
  conversions : ∀ work, pipeline.conversions.current = some work →
    work.exchange.AllRequests promise
  bonuses : ∀ work, pipeline.bonuses.current = some work → work.exchange.AllRequests promise
  limits : ∀ exchange, pipeline.limits = .loading exchange → exchange.AllRequests promise

/-- The task that a duty begins, if it begins one, keeps a promise. -/
def BeginsOnly (settings : PipelineSettings) (promise : Request → Prop) (entry : AmountEntry) :
    Duty → Prop
  | .convert => ∀ amount, (conversionOf settings entry amount).AllRequests promise
  | .forecast => ∀ fiat, (bonusOf settings entry.currency.code fiat).AllRequests promise
  | .loadLimits => (limitsOf entry.currency.code).AllRequests promise
  | _ => True

/-- Whoever keeps a promise keeps a weaker one. -/
theorem AsksOnly.mono (asks : pipeline.AsksOnly promise)
    (more : ∀ request, promise request → promise' request) : pipeline.AsksOnly promise' where
  conversions work current := (asks.conversions work current).mono more
  bonuses work current := (asks.bonuses work current).mono more
  limits exchange current := (asks.limits exchange current).mono more

/-- At the start there is nothing that could be asked. -/
theorem asksOnly_start : (start settings).AsksOnly promise where
  conversions _ same := by cases same
  bonuses _ same := by cases same
  limits _ same := by cases same

/-- A promise is kept by a duty that begins nothing which would break it. -/
theorem AsksOnly.perform {duty : Duty} (asks : pipeline.AsksOnly promise)
    (begins : BeginsOnly settings promise pipeline.state.entry duty) (now : Instant) :
    (pipeline.perform settings now duty).AsksOnly promise := by
  obtain ⟨conversions, bonuses, limits⟩ := asks
  cases duty with
  | cancelConversion => exact ⟨fun _ same => (by cases same), bonuses, limits⟩
  | cancelBonus => exact ⟨conversions, fun _ same => (by cases same), limits⟩
  | convert =>
      simp only [Pipeline.perform]
      split
      · exact ⟨conversions, bonuses, limits⟩
      · exact ⟨conversions, bonuses, limits⟩
      · split
        · refine ⟨fun work same => ?_, bonuses, limits⟩
          obtain rfl := Option.some.inj same
          exact begins _
        · exact ⟨conversions, bonuses, limits⟩
  | forecast =>
      simp only [Pipeline.perform]
      split
      · exact ⟨conversions, bonuses, limits⟩
      · refine ⟨conversions, fun work same => ?_, limits⟩
        obtain rfl := Option.some.inj same
        exact begins _
  | loadLimits =>
      simp only [Pipeline.perform, startLimits]
      split
      · refine ⟨conversions, bonuses, fun exchange same => ?_⟩
        obtain rfl := LimitsLoad.loading.inj same
        exact begins
      · exact ⟨conversions, bonuses, limits⟩
  | rearm | revalidate | validateWaiting =>
      simp only [Pipeline.perform]
      split <;> exact ⟨conversions, bonuses, limits⟩
  | _ => exact ⟨conversions, bonuses, limits⟩

/-- A promise is kept by every step of the pipeline's own task if it is kept by what the next duty
begins. -/
theorem AsksOnly.ownStep {now : Instant} {sink : Sink TaskName}
    (asks : pipeline.AsksOnly promise)
    (begins : ∀ duty rest, pipeline.duties = duty :: rest →
      BeginsOnly settings promise pipeline.state.entry duty)
    (step : OwnStep settings now sink pipeline next) : next.AsksOnly promise := by
  obtain ⟨conversions, bonuses, limits⟩ := asks
  cases step with
  | stops _ _ =>
      exact ⟨fun _ same => (by cases same), fun _ same => (by cases same),
        fun _ same => (by cases same)⟩
  | @completion completion _ _ _ =>
      refine ⟨conversions, bonuses, fun exchange same => ?_⟩
      cases completion with
      | limitsLoaded _ => cases same
      | converted _ _ | bonusLoaded _ _ => exact limits exchange same
  | @performs duty rest head _ =>
      have left : ({ pipeline with duties := rest } : Pipeline).AsksOnly promise :=
        ⟨conversions, bonuses, limits⟩
      exact left.perform (begins duty rest head) now
  | _ => exact ⟨conversions, bonuses, limits⟩

/-- Background tasks keep a promise as they go on. -/
theorem AsksOnly.backgroundStep {turn : Turn}
    (asks : pipeline.AsksOnly promise)
    (step : BackgroundStep pipeline turn next) : next.AsksOnly promise := by
  obtain ⟨conversions, bonuses, limits⟩ := asks
  cases step with
  | askConversion current asks =>
      refine ⟨fun work same => ?_, bonuses, limits⟩
      obtain rfl := Option.some.inj same
      exact ((conversions _ current).ask asks).2 _
  | askBonus current asks =>
      refine ⟨conversions, fun work same => ?_, limits⟩
      obtain rfl := Option.some.inj same
      exact ((bonuses _ current).ask asks).2 _
  | askLimits current asks =>
      refine ⟨conversions, bonuses, fun exchange same => ?_⟩
      obtain rfl := LimitsLoad.loading.inj same
      exact ((limits _ current).ask asks).2 _
  | endConversion _ _ => exact ⟨fun _ same => (by cases same), bonuses, limits⟩
  | endBonus _ _ => exact ⟨conversions, fun _ same => (by cases same), limits⟩
  | endLimits _ _ => exact ⟨conversions, bonuses, fun _ same => (by cases same)⟩
  | @hear call server =>
      refine ⟨fun work same => ?_, fun work same => ?_, fun exchange same => ?_⟩
      · obtain ⟨earlier, current, rfl⟩ := Option.map_eq_some_iff.mp same
        exact (conversions _ current).hear call server
      · obtain ⟨earlier, current, rfl⟩ := Option.map_eq_some_iff.mp same
        exact (bonuses _ current).hear call server
      · simp only [hear] at same
        split at same
        · next heard current =>
            obtain rfl := LimitsLoad.loading.inj same
            exact (limits _ current).hear call server
        · exact limits _ same
  | send | close => exact ⟨conversions, bonuses, limits⟩

/-- **A promise that every task keeps when it begins is kept by every request.**  The promise may
speak of what has happened, as long as nothing that happens later breaks it. -/
theorem asksOnly_of_reaches (promise : History → Request → Prop)
    (reached : Reaches (Pipeline.turn settings) (start settings) past pipeline)
    (later : ∀ moment past request, promise past request → promise (moment :: past) request)
    (begins : ∀ past pipeline now sink duty rest, pipeline.duties = duty :: rest →
      BeginsOnly settings (promise (⟨pipeline, .own now sink⟩ :: past)) pipeline.state.entry
        duty) :
    pipeline.AsksOnly (promise past) := by
  induction reached with
  | start => exact asksOnly_start
  | @step past middle next turn _ moved ih =>
      have asks := ih.mono (later ⟨middle, turn⟩ past)
      rcases step_of_turn moved with ⟨now, sink, rfl, _, step⟩ | step
      · exact asks.ownStep (fun duty rest => begins _ _ now sink duty rest) step
      · exact asks.backgroundStep step

/-- What is asked next keeps the promise. -/
theorem AsksOnly.ask {task : TaskName} {request : Request} {resume : CallId → Pipeline}
    (promised : pipeline.AsksOnly promise)
    (asks : pipeline.ask? task = some (request, resume)) : promise request := by
  cases task with
  | conversion =>
      simp only [ask?] at asks
      split at asks
      · cases asks
      · next work current =>
          obtain ⟨⟨asked, _⟩, puts, same⟩ := Option.map_eq_some_iff.mp asks
          cases same
          exact ((promised.conversions _ current).ask puts).1
  | bonus =>
      simp only [ask?] at asks
      split at asks
      · cases asks
      · next work current =>
          obtain ⟨⟨asked, _⟩, puts, same⟩ := Option.map_eq_some_iff.mp asks
          cases same
          exact ((promised.bonuses _ current).ask puts).1
  | limits =>
      simp only [ask?] at asks
      split at asks
      · next exchange current =>
          obtain ⟨⟨asked, _⟩, puts, same⟩ := Option.map_eq_some_iff.mp asks
          cases same
          exact ((promised.limits _ current).ask puts).1
      · cases asks
  | session | pipeline | setup | payment => cases asks

/-! ## The requests of each task -/

/-- A conversion asks for a quote in one direction or the other and saves what it finds. -/
theorem allRequests_conversionOf {entry : AmountEntry} {amount : Decimal}
    (fiat : ∀ amount, promise (.quote entry.currency.code amount (some tokenCode)))
    (token : ∀ amount, promise (.quote tokenCode amount none))
    (saves : ∀ key money, promise (.saveRate key money)) :
    (conversionOf settings entry amount).AllRequests promise := by
  unfold conversionOf
  split
  · exact Converter.allRequests_convert fiat
  · exact Converter.allRequests_tokenToLocal token fun key money _ => saves key money

/-- A forecast asks for a quote and for the bonus of its tokens. -/
theorem allRequests_bonusOf {currency : String} {fiat : Decimal}
    (quotes : ∀ amount, promise (.quote currency amount (some tokenCode)))
    (forecasts : ∀ package tokens, promise (.forecast package tokens)) :
    (bonusOf settings currency fiat).AllRequests promise := by
  unfold bonusOf Converter.fiatToToken
  refine (Converter.allRequests_convert quotes).bind fun result => ?_
  cases result with
  | error _ => trivial
  | ok tokens =>
      simp only [Dialogue.AllRequests]
      refine ⟨forecasts _ _, fun answer => ?_⟩
      cases answer <;> trivial

/-- Loading the limits asks for nothing else. -/
theorem allRequests_limitsOf {currency : String} (limits : promise (.limits currency)) :
    (limitsOf currency).AllRequests promise := by
  simp only [limitsOf, Dialogue.AllRequests]
  refine ⟨limits, fun answer => ?_⟩
  cases answer <;> trivial

/-! ## Payments -/

/-- No background task will ever ask for a payment. -/
structure AsksFree (pipeline : Pipeline) : Prop where
  conversions : ∀ work, pipeline.conversions.current = some work →
    work.exchange.AllRequests Request.IsFree
  bonuses : ∀ work, pipeline.bonuses.current = some work →
    work.exchange.AllRequests Request.IsFree
  limits : ∀ exchange, pipeline.limits = .loading exchange → exchange.AllRequests Request.IsFree

/-- **A pipeline never asks for a payment.** -/
theorem asksFree_of_reaches
    (reached : Reaches (Pipeline.turn settings) (start settings) past pipeline) :
    pipeline.AsksFree := by
  obtain ⟨conversions, bonuses, limits⟩ : pipeline.AsksOnly Request.IsFree := by
    refine asksOnly_of_reaches (fun _ => Request.IsFree) reached (fun _ _ _ => id)
      fun _ _ _ _ duty _ _ => ?_
    have quotes : ∀ source amount target, Request.IsFree (.quote source amount target) :=
      fun _ _ _ _ same => by cases same
    cases duty with
    | convert =>
        exact fun _ => allRequests_conversionOf (quotes _ · _) (quotes _ · _)
          fun _ _ _ same => by cases same
    | forecast =>
        exact fun _ => allRequests_bonusOf (quotes _ · _) fun _ _ _ same => by cases same
    | loadLimits => exact allRequests_limitsOf fun _ same => by cases same
    | _ => trivial
  exact ⟨conversions, bonuses, limits⟩

/-- What a pipeline asks charges nobody. -/
theorem AsksFree.ask {task : TaskName} {request : Request} {resume : CallId → Pipeline}
    (free : pipeline.AsksFree)
    (asks : pipeline.ask? task = some (request, resume)) : request.IsFree :=
  AsksOnly.ask ⟨free.conversions, free.bonuses, free.limits⟩ asks

end Pipeline

end WalletTopUp
