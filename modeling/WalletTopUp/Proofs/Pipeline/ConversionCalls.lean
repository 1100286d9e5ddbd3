import WalletTopUp.Proofs.Amount.Text
import WalletTopUp.Proofs.Pipeline.Debounce
import WalletTopUp.Proofs.Pipeline.Requests

/-!
# The calls of debounced conversions

A conversion that is asked for puts its amount to the broker at the same time, unless it is dropped
before it gets to it, and nothing else is ever put to the broker by a conversion
(`PipelineRun.carried_of_reaches`, `PipelineRun.flying_of_reaches`).  With what leads to a
conversion this is the whole contract of the amount field (`PipelineRun.conversions_debounced`).
-/

namespace WalletTopUp

/-- A request that asks the broker nothing. -/
def Request.IsNoQuote (request : Request) : Prop :=
  ∀ source amount target, request ≠ .quote source amount target

/-! ## The dialogue of a conversion -/

namespace Converter

variable {text source : String} {target : Option String} {scale : Nat}

/-- How a conversion goes on with the broker's answer. -/
def answered (scale : Nat) : Except ServiceError Quote → Dialogue ConversionResult
  | .error error => .done (.error (.service error))
  | .ok quote => .done (.ok (roundQuote scale quote))

/-- A conversion puts its amount to the broker, or it fails right away. -/
theorem convert_eq (solid : trimmed text = text) :
    convert text source target scale =
      if !Amount.isNonNegative text then .done (.error (.invalidAmount text))
      else if Decimal.maxScale < scale then .done (.error (.invalidScale scale))
      else .call (.quote source text target) (answered scale) := by
  unfold convert
  generalize trimmed text = amount at solid ⊢
  subst solid
  dsimp only
  split
  · rfl
  · split
    · rfl
    · refine congrArg (Dialogue.call (.quote source amount target)) (funext fun answer => ?_)
      cases answer <;> rfl

end Converter

namespace Pipeline

variable {settings : PipelineSettings}

/-- How the conversion of an entry goes on with the broker's answer. -/
def afterQuote (settings : PipelineSettings) (entry : AmountEntry) (amount : Decimal)
    (answer : Except ServiceError Quote) : Dialogue ConversionResult :=
  match entry.selected with
  | .fiat => Converter.answered settings.conversionScale answer
  | .token => (Converter.answered settings.conversionScale answer).andThen fun money =>
      (settings.converter.store .appcToFiat amount.toText money).bind fun _ => .done (.ok money)

/-- Once the broker has been asked, a conversion asks for no more quotes. -/
theorem allRequests_afterQuote (entry : AmountEntry) (amount : Decimal)
    (answer : Except ServiceError Quote) :
    (afterQuote settings entry amount answer).AllRequests Request.IsNoQuote := by
  have saves : ∀ key money, Request.IsNoQuote (.saveRate key money) :=
    fun _ _ _ _ _ same => by cases same
  cases side : entry.selected with
  | fiat =>
      simp only [afterQuote, side]
      cases answer <;> trivial
  | token =>
      simp only [afterQuote, side]
      cases answer with
      | error error => trivial
      | ok quote =>
          have stored : (settings.converter.store .appcToFiat amount.toText
              (Converter.roundQuote settings.conversionScale quote)).AllRequests
                Request.IsNoQuote :=
            Converter.allRequests_store fun key money _ => saves key money
          exact stored.bind fun _ => trivial

/-- The conversion of an entry puts its amount to the broker, or it fails right away. -/
theorem conversionOf_eq (settings : PipelineSettings) (entry : AmountEntry) (amount : Decimal) :
    conversionOf settings entry amount =
      if !Amount.isNonNegative amount.toText then .done (.error (.invalidAmount amount.toText))
      else if Decimal.maxScale < settings.conversionScale then
        .done (.error (.invalidScale settings.conversionScale))
      else .call (.quote (sourceCode entry) amount.toText (targetCode entry))
        (afterQuote settings entry amount) := by
  have solid := Converter.trimmed_toText amount
  cases side : entry.selected with
  | fiat =>
      have source : sourceCode entry = entry.currency.code := by rw [sourceCode, side]
      have target : targetCode entry = some tokenCode := by rw [targetCode, side]
      have after : afterQuote settings entry amount
          = Converter.answered settings.conversionScale := by
        funext answer
        rw [afterQuote, side]
      rw [source, target, after]
      simp only [conversionOf, side]
      exact Converter.convert_eq solid
  | token =>
      have source : sourceCode entry = tokenCode := by rw [sourceCode, side]
      have target : targetCode entry = none := by rw [targetCode, side]
      rw [source, target]
      simp only [conversionOf, side]
      unfold Converter.tokenToLocal Converter.convertAndStore
      rw [Converter.convert_eq solid]
      split
      · rfl
      · split
        · rfl
        · refine congrArg (Dialogue.call (.quote tokenCode amount.toText none))
            (funext fun answer => ?_)
          simp only [afterQuote, side]
          rfl

/-- The conversion of a positive amount begins with asking the broker for it. -/
theorem conversionOf_eq_call {entry : AmountEntry} {amount : Decimal}
    (positive : amount.isPositive = true)
    (places : settings.conversionScale ≤ Decimal.maxScale) :
    conversionOf settings entry amount
      = .call (.quote (sourceCode entry) amount.toText (targetCode entry))
          (afterQuote settings entry amount) := by
  rw [conversionOf_eq, Decimal.isNonNegative_toText positive, if_neg (by simp),
    if_neg (Nat.not_lt.mpr places)]

/-! ## The conversion that is due -/

variable {pipeline : Pipeline}

/-- A conversion that is due is put in flight if the amount is positive. -/
theorem perform_convert_of_positive {amount : Decimal} (now : Instant)
    (positive : pipeline.state.entry.source.positive? = some amount) :
    pipeline.perform settings now .convert = pipeline.startConversion settings amount := by
  have source := AmountValue.eq_of_positive? positive
  have above := AmountValue.isPositive_of_positive? positive
  simp only [perform, source, above, if_true]

/-- Otherwise there is nothing to convert. -/
theorem conversions_convert_of_nothing (now : Instant)
    (nothing : pipeline.state.entry.source.positive? = none) :
    (pipeline.perform settings now .convert).conversions = pipeline.conversions := by
  cases source : pipeline.state.entry.source with
  | unknown | zero =>
      simp only [perform, source]
      rfl
  | value amount =>
      have low : ¬ amount.isPositive = true := fun above => by
        rw [source, AmountValue.positive?, if_pos above] at nothing
        cases nothing
      simp only [perform, source, if_neg low]
      rfl

end Pipeline

namespace PipelineRun

variable {settings : PipelineSettings} {run next : PipelineRun} {event : Move}
  {past : List (Moment PipelineRun Move)}

/-! ## What a move does to the conversion in flight -/

/-- A conversion that is in flight is dropped: it is cancelled, or the pipeline stops. -/
def Drops (moment : Moment PipelineRun Move) : Prop :=
  moment.event = .step .pipeline
    ∧ ((∃ rest, moment.before.pipeline.duties = .cancelConversion :: rest)
      ∨ (moment.before.pipeline.duties = []
        ∧ (moment.before.sink.shutdown.isDown = true ∨ moment.before.pipeline.inputsOpen = false)))

/-- The conversion in flight, if there is one. -/
def flying? (run : PipelineRun) : Option (Exchange ConversionResult) :=
  run.pipeline.conversions.current.map Ticketed.exchange

/-- What a move does to the conversion in flight. -/
inductive Flight (settings : PipelineSettings) (run : PipelineRun) (event : Move)
    (next : PipelineRun) : Prop where
  | begins {request : Requested}
      (asks : requested? ⟨run, event⟩ = some request)
      (now : next.now = request.time)
      (flying : next.flying?
        = some (.ready (Pipeline.conversionOf settings request.entry request.amount))) :
      Flight settings run event next
  | drops
      (drops : Drops ⟨run, event⟩)
      (silent : requested? ⟨run, event⟩ = none)
      (flying : next.flying? = none) : Flight settings run event next
  | puts {exchange : Exchange ConversionResult} {request : Request}
      {resume : CallId → Exchange ConversionResult}
      (step : event = .step .conversion)
      (before : run.flying? = some exchange)
      (asks : exchange.ask? = some (request, resume))
      (flying : ∃ call, next.flying? = some (resume call)) : Flight settings run event next
  | ends {exchange : Exchange ConversionResult} {result : ConversionResult}
      (step : event = .step .conversion)
      (before : run.flying? = some exchange)
      (ended : exchange.result? = some result)
      (flying : next.flying? = none) : Flight settings run event next
  | hears {call : CallId} {server : Server}
      (answer : event = .answer call server)
      (flying : next.flying? = run.flying?.map (Exchange.hear call server)) :
      Flight settings run event next
  | keeps
      (silent : requested? ⟨run, event⟩ = none)
      (other : event ≠ .step .conversion)
      (flying : next.flying? = run.flying?) : Flight settings run event next

/-- A turn of the pipeline tells which move it comes from. -/
theorem event_of_turn {action : Pipeline.Turn} (labelled : run.turn? event = some action) :
    (∀ task call, action = .ask task call → event = .step task)
      ∧ (∀ task, action = .finish task → event = .step task)
      ∧ (∀ call server, action = .hear call server → event = .answer call server)
      ∧ (∀ now sink, action = .own now sink → event = .step .pipeline) := by
  cases event with
  | step task =>
      simp only [turn?] at labelled
      split at labelled <;> obtain rfl := Option.some.inj labelled <;> simp
  | answer call server =>
      obtain rfl := Option.some.inj labelled
      simp
  | send _ | close =>
      obtain rfl := Option.some.inj labelled
      simp
  | _ => cases labelled

/-- A step of the conversion task asks something or ends. -/
theorem turn_of_step_conversion {action : Pipeline.Turn}
    (labelled : run.turn? (.step .conversion) = some action) :
    (∃ call, action = .ask .conversion call) ∨ action = .finish .conversion := by
  simp only [turn?] at labelled
  split at labelled
  · exact .inl ⟨_, (Option.some.inj labelled).symm⟩
  · next same => cases same
  · exact .inr (Option.some.inj labelled).symm

/-- No conversion is requested by another duty. -/
theorem requested?_of_head {duty : Duty} {rest : List Duty}
    (head : run.pipeline.duties = duty :: rest)
    (other : duty ≠ .convert) : requested? ⟨run, event⟩ = none := by
  unfold requested?
  split
  · next _ same => exact (other (List.cons.inj (head.symm.trans same)).1).elim
  · rfl

/-- What the pipeline's own task does to the conversion in flight. -/
theorem flight_of_own
    (moved : run.move settings (.step .pipeline) = some next) :
    Flight settings run (.step .pipeline) next := by
  have now : next.now = run.now := now_of_still moved (by simp)
  have keeps (silent : requested? ⟨run, .step .pipeline⟩ = none)
      (same : next.pipeline.conversions = run.pipeline.conversions) :
      Flight settings run (.step .pipeline) next :=
    .keeps silent (by simp) (by rw [flying?, flying?, same])
  by_cases free : run.pipeline.duties = []
  · have silent : requested? ⟨run, .step .pipeline⟩ = none :=
      requested?_of_not_mem (by simp [free])
    have took := took_of_move moved free
    generalize same : next.pipeline = taken at took
    cases took with
    | stops ending =>
        refine .drops ⟨rfl, .inr ⟨free, ending.imp_right And.right⟩⟩ silent ?_
        rw [flying?, same]
        rfl
    | _ => exact keeps silent (congrArg Pipeline.conversions same :)
  · have worked := Pipeline.worked_of_ownStep free (ownStep_of_move moved).1
    generalize same : next.pipeline = done at worked
    cases worked with
    | waits head => exact keeps (requested?_of_head head (by simp)) (by rw [same])
    | tells head => exact keeps (requested?_of_head head (by simp)) (by rw [same])
    | @performs duty rest head _ =>
        by_cases cancels : duty = .cancelConversion
        · subst cancels
          refine .drops ⟨rfl, .inl ⟨rest, head⟩⟩ (requested?_of_head head (by simp)) ?_
          rw [flying?, same]
          rfl
        · by_cases converts : duty = .convert
          · subst converts
            have asks : requested? ⟨run, .step .pipeline⟩
                = requestAt? run.now run.pipeline.state.entry := by
              simp only [requested?, head]
            cases source : run.pipeline.state.entry.source.positive? with
            | none =>
                refine keeps (by rw [asks, requestAt?, source, Option.map_none]) ?_
                rw [same]
                exact Pipeline.conversions_convert_of_nothing run.now source
            | some amount =>
                refine .begins (by rw [asks, requestAt?, source, Option.map_some]) now ?_
                rw [flying?, same.trans (Pipeline.perform_convert_of_positive run.now source)]
                rfl
          · refine keeps (requested?_of_head head converts) ?_
            rw [same]
            exact (Pipeline.performed settings run.now run.pipeline duty rest).conversions
              cancels converts

/-- **What a move does to the conversion in flight.** -/
theorem flight_of_move (moved : run.move settings event = some next) :
    Flight settings run event next := by
  by_cases own : event = .step .pipeline
  · subst own
    exact flight_of_own moved
  have silent : requested? ⟨run, event⟩ = none := requested?_of_event own
  have keeps (other : event ≠ .step .conversion)
      (same : next.pipeline.conversions = run.pipeline.conversions) :
      Flight settings run event next := .keeps silent other (by rw [flying?, flying?, same])
  cases labelled : run.turn? event with
  | none =>
      refine keeps ?_ (by rw [pipeline_of_move moved labelled])
      rintro rfl
      simp only [turn?] at labelled
      split at labelled <;> cases labelled
  | some action =>
      obtain ⟨asks, ends, answers, _⟩ := event_of_turn labelled
      have other (notAsk : ∀ call, action ≠ .ask .conversion call)
          (notFinish : action ≠ .finish .conversion) : event ≠ .step .conversion := by
        rintro rfl
        rcases turn_of_step_conversion labelled with ⟨call, same⟩ | same
        · exact notAsk call same
        · exact notFinish same
      rcases Pipeline.step_of_turn (turn_of_move moved labelled) with ⟨now, sink, rfl, _⟩ | step
      · exact (own ((event_of_turn labelled).2.2.2 now sink rfl)).elim
      · generalize same : next.pipeline = done at step
        cases step with
        | @askConversion work request resume call current puts =>
            refine .puts (asks _ _ rfl) ?_ puts ⟨call, ?_⟩
            · rw [flying?, current]
              rfl
            · rw [flying?, same]
              rfl
        | endConversion current ended =>
            refine .ends (ends _ rfl) ?_ ended ?_
            · rw [flying?, current]
              rfl
            · rw [flying?, same]
              rfl
        | hear =>
            refine .hears (answers _ _ rfl) ?_
            rw [flying?, flying?, same]
            simp only [Pipeline.hear, Pipeline.hearWork, Option.map_map]
            rfl
        | _ => exact keeps (other (by simp) (by simp)) (congrArg Pipeline.conversions same :)

/-! ## What is put to the broker -/

/-- The question that a conversion puts to the broker. -/
def Requested.question (request : Requested) : Request :=
  .quote (Pipeline.sourceCode request.entry) request.amount.toText
    (Pipeline.targetCode request.entry)

/-- The dialogue of a conversion that is asked for. -/
def Requested.dialogue (settings : PipelineSettings) (request : Requested) :
    Dialogue ConversionResult :=
  Pipeline.conversionOf settings request.entry request.amount

/-- The conversion in flight puts out a request. -/
def Puts (request : Request) (moment : Moment PipelineRun Move) : Prop :=
  moment.event = .step .conversion
    ∧ (moment.before.pipeline.ask? .conversion).map Prod.fst = some request

/-- How far a conversion in flight has got.  As long as it has put out nothing, no time passes. -/
inductive Flying (settings : PipelineSettings) (request : Requested) (now : Instant) :
    Exchange ConversionResult → Prop where
  | ready (same : request.time = now) :
      Flying settings request now (.ready (request.dialogue settings))
  | waiting {call : CallId} :
      Flying settings request now (.waiting call request.question
        (Pipeline.afterQuote settings request.entry request.amount))
  | answered {exchange : Exchange ConversionResult}
      (rest : exchange.AllRequests Request.IsNoQuote) : Flying settings request now exchange

/-- A requested conversion fails at once, or it begins with its one question. -/
theorem dialogue_eq (settings : PipelineSettings) (request : Requested) :
    (∃ error, request.dialogue settings = .done (.error error))
      ∨ request.dialogue settings = .call request.question
          (Pipeline.afterQuote settings request.entry request.amount) := by
  rw [Requested.dialogue, Pipeline.conversionOf_eq]
  split
  · exact .inl ⟨_, rfl⟩
  · split
    · exact .inl ⟨_, rfl⟩
    · exact .inr rfl

/-- A conversion that has put out nothing can take a step. -/
theorem step_of_ready {request : Requested}
    (flying : run.flying? = some (.ready (request.dialogue settings))) :
    run.step settings .conversion ≠ none := by
  obtain ⟨work, current, ready⟩ := Option.map_eq_some_iff.mp flying
  rcases dialogue_eq settings request with ⟨error, fails⟩ | calls
  · have silent : run.pipeline.ask? .conversion = none := by
      simp only [Pipeline.ask?, current, ready, fails, Exchange.ask?, Option.map_none]
    simp [step, silent, Pipeline.finish, Pipeline.finishConversion, current, ready, fails,
      Exchange.result?]
  · simp [step, Pipeline.ask?, current, ready, calls, Exchange.ask?]

/-- Time does not pass while a conversion has put out nothing. -/
theorem now_of_ready {request : Requested}
    (exact : IsExact settings ⟨run, event⟩)
    (moved : run.move settings event = some next)
    (flying : run.flying? = some (.ready (request.dialogue settings))) : next.now = run.now :=
  now_of_still moved fun milliseconds advances =>
    step_of_ready flying ((exact milliseconds advances).1 .conversion)

/-- A flight that asks something goes on, at whatever time it does. -/
theorem Flying.ask {request : Requested} {exchange : Exchange ConversionResult} {now now' : Instant}
    {asked : Request} {resume : CallId → Exchange ConversionResult}
    (flying : Flying settings request now exchange)
    (asks : exchange.ask? = some (asked, resume)) (call : CallId) :
    Flying settings request now' (resume call) := by
  cases flying with
  | ready same =>
      rcases dialogue_eq settings request with ⟨error, fails⟩ | calls
      · rw [fails] at asks
        cases asks
      · rw [calls] at asks
        cases asks
        exact .waiting
  | waiting => cases asks
  | answered rest => exact .answered ((rest.ask asks).2 call)

/-- A flight goes on with every answer. -/
theorem Flying.hear {request : Requested} {exchange : Exchange ConversionResult} {now : Instant}
    (flying : Flying settings request now exchange) (call : CallId) (server : Server) :
    Flying settings request now (exchange.hear call server) := by
  cases flying with
  | ready same => exact .ready same
  | waiting =>
      simp only [Exchange.hear]
      split
      · exact .answered (Pipeline.allRequests_afterQuote _ _ _)
      · exact .waiting
  | answered rest => exact .answered (rest.hear call server)

/-- The conversion in flight is the one that was asked for last. -/
theorem flying_of_reaches
    (reached : Reaches (PipelineRun.move settings) (PipelineRun.start settings) past run)
    (exactly : ∀ moment ∈ past, IsExact settings moment)
    {exchange : Exchange ConversionResult}
    (flies : run.flying? = some exchange) :
    ∃ request, (requested past).head? = some request
      ∧ Flying settings request run.now exchange := by
  induction reached generalizing exchange with
  | start => cases flies
  | @step past run next event earlier moved ih =>
      obtain ⟨exact, before⟩ := List.forall_mem_cons.mp exactly
      have ih := @ih before
      have silently (silent : requested? ⟨run, event⟩ = none) :
          requested (⟨run, event⟩ :: past) = requested past := by
        rw [requested_cons, silent]
        rfl
      cases flight_of_move moved with
      | begins asks now flying =>
          obtain rfl := Option.some.inj (flying.symm.trans flies)
          refine ⟨_, ?_, .ready now.symm⟩
          rw [requested_cons, asks]
          rfl
      | drops _ _ flying => cases flying.symm.trans flies
      | ends _ _ _ flying => cases flying.symm.trans flies
      | puts step flew asks flying =>
          obtain ⟨call, flying⟩ := flying
          obtain rfl := Option.some.inj (flying.symm.trans flies)
          obtain ⟨request, latest, flew⟩ := ih flew
          rw [silently (requested?_of_event (by simp [step]))]
          exact ⟨request, latest, flew.ask asks call⟩
      | hears answer flying =>
          obtain ⟨heard, flew, rfl⟩ := Option.map_eq_some_iff.mp (flying.symm.trans flies)
          obtain ⟨request, latest, flew⟩ := ih flew
          have now : next.now = run.now := now_of_still moved (by simp [answer])
          rw [silently (requested?_of_event (by simp [answer])), now]
          exact ⟨request, latest, flew.hear _ _⟩
      | keeps silent _ flying =>
          have flew := flying.symm.trans flies
          obtain ⟨request, latest, state⟩ := ih flew
          rw [silently silent]
          refine ⟨request, latest, ?_⟩
          cases state with
          | ready same => exact .ready (same.trans (now_of_ready exact moved flew).symm)
          | waiting => exact .waiting
          | answered rest => exact .answered rest

/-- Whatever a conversion puts to the broker is the question of the one that was asked for last, and
it puts it at the same time. -/
theorem question_of_puts {source text : String} {target : Option String}
    (reached : Reaches (PipelineRun.move settings) (PipelineRun.start settings) past run)
    (exactly : ∀ moment ∈ past, IsExact settings moment)
    (puts : Puts (.quote source text target) ⟨run, event⟩) :
    ∃ request, (requested past).head? = some request ∧ request.time = run.now
      ∧ .quote source text target = request.question := by
  obtain ⟨_, puts⟩ := puts
  obtain ⟨⟨asked, resume⟩, asks, rfl⟩ := Option.map_eq_some_iff.mp puts
  cases current : run.pipeline.conversions.current with
  | none => simp [Pipeline.ask?, current] at asks
  | some work =>
      simp only [Pipeline.ask?, current] at asks
      obtain ⟨⟨question, goesOn⟩, puts, same⟩ := Option.map_eq_some_iff.mp asks
      cases same
      have flies : run.flying? = some work.exchange := by
        rw [flying?, current]
        rfl
      obtain ⟨request, latest, flying⟩ := flying_of_reaches reached exactly flies
      generalize work.exchange = exchange at puts flying
      cases flying with
      | ready same =>
          rcases dialogue_eq settings request with ⟨error, fails⟩ | calls
          · rw [fails] at puts
            cases puts
          · rw [calls] at puts
            obtain ⟨question, _⟩ := Prod.mk.inj (Option.some.inj puts)
            exact ⟨request, latest, same, question.symm⟩
      | waiting => cases puts
      | answered rest => exact ((rest.ask puts).1 source text target rfl).elim

/-- A conversion that is asked for puts its question, or it is dropped before it gets to it. -/
def Carries (settings : PipelineSettings) (request : Requested)
    (moment : Moment PipelineRun Move) : Prop :=
  moment.before.now = request.time
    ∧ moment.before.flying? = some (.ready (request.dialogue settings))
    ∧ (Puts request.question moment ∨ Drops moment)

/-- Only positive amounts are converted by the broker. -/
theorem positive_of_requested? {moment : Moment PipelineRun Move} {request : Requested}
    (asks : requested? moment = some request) : request.amount.isPositive = true := by
  unfold requested? at asks
  split at asks
  · obtain ⟨_, positive, rfl⟩ := Option.map_eq_some_iff.mp asks
    exact AmountValue.isPositive_of_positive? positive
  · cases asks

/-- Conversions are requested by the pipeline's own task. -/
theorem own_of_requested? {request : Requested} (asks : requested? ⟨run, event⟩ = some request) :
    event = .step .pipeline := by
  by_contra other
  cases (requested?_of_event other).symm.trans asks

/-- No conversion is in flight when another one is asked for. -/
theorem nothing_flies_of_requested? {request : Requested}
    (reached : Reaches (PipelineRun.move settings) (PipelineRun.start settings) past run)
    (moved : run.move settings event = some next)
    (asks : requested? ⟨run, event⟩ = some request) :
    run.pipeline.conversions.current = none := by
  unfold requested? at asks
  split at asks
  · next own head =>
      obtain rfl : event = .step .pipeline := own
      have reachedTurns := reaches_turns reached
      have awaits : run.pipeline.AwaitsDerived :=
        (Pipeline.ready_of_anyOrder reachedTurns (running_of_move moved)).before head
      have accounted := Pipeline.accounted_of_reaches reachedTurns
      by_contra flies
      obtain ⟨work, current⟩ := Option.ne_none_iff_exists'.mp flies
      exact awaits.notConverting
        (Pipeline.converting_iff.mpr
          (.inl ⟨work, current, accounted.conversions.current _ current⟩))
  · cases asks

/-- **Every conversion that is asked for puts its question at the same time**, unless it is dropped
before it gets to it. -/
theorem carried_of_reaches
    (reached : Reaches (PipelineRun.move settings) (PipelineRun.start settings) past run)
    (exactly : ∀ moment ∈ past, IsExact settings moment)
    (places : settings.conversionScale ≤ Decimal.maxScale)
    {request : Requested}
    (member : request ∈ requested past) :
    (request.time = run.now ∧ run.flying? = some (.ready (request.dialogue settings)))
      ∨ ∃ moment ∈ past, Carries settings request moment := by
  induction reached with
  | start => cases member
  | @step past run next event earlier moved ih =>
      obtain ⟨exact, before⟩ := List.forall_mem_cons.mp exactly
      rw [requested_cons, List.mem_append, Option.mem_toList] at member
      rcases member with asks | member
      · have own := own_of_requested? asks
        cases flight_of_move moved with
        | begins asks' now flying =>
            obtain rfl := Option.some.inj (asks'.symm.trans asks)
            exact .inl ⟨now.symm, flying⟩
        | drops _ silent _ => cases silent.symm.trans asks
        | puts step _ _ _ => cases own.symm.trans step
        | ends step _ _ _ => cases own.symm.trans step
        | hears answer _ => cases own.symm.trans answer
        | keeps silent _ _ => cases silent.symm.trans asks
      · obtain ⟨_, _, asked⟩ := List.mem_filterMap.mp member
        have calls : request.dialogue settings = .call request.question _ :=
          Pipeline.conversionOf_eq_call (positive_of_requested? asked) places
        rcases ih before member with ⟨time, flew⟩ | ⟨moment, inside, carries⟩
        · have here (carries : Puts request.question ⟨run, event⟩ ∨ Drops ⟨run, event⟩) :
              ∃ moment ∈ ⟨run, event⟩ :: past, Carries settings request moment :=
            ⟨⟨run, event⟩, List.mem_cons_self, time.symm, flew, carries⟩
          -- A conversion that is ready stops the clock: it is put, dropped or left ready at once.
          have now := now_of_ready exact moved flew
          cases flight_of_move moved with
          | begins asks _ _ =>
              have nothing := nothing_flies_of_requested? earlier moved asks
              simp [flying?, nothing] at flew
          | drops drops _ _ => exact .inr (here (.inr drops))
          | puts step _ _ _ =>
              obtain ⟨work, current, ready⟩ := Option.map_eq_some_iff.mp flew
              refine .inr (here (.inl ⟨step, ?_⟩))
              rw [Pipeline.ask?_conversion current, ready, calls]
              rfl
          | ends _ flew' ended _ =>
              obtain rfl := Option.some.inj (flew.symm.trans flew')
              rw [calls] at ended
              cases ended
          | hears _ flying =>
              rw [flew] at flying
              exact .inl ⟨time.trans now.symm, flying⟩
          | keeps _ _ flying => exact .inl ⟨time.trans now.symm, flying.trans flew⟩
        · exact .inr ⟨moment, List.mem_cons_of_mem _ inside, carries⟩

/-! ## The contract of the amount field -/

/-- **Conversions are debounced.**  In every run with exact timers and a presentation layer that
keeps reading, whatever inputs come at whatever times and however the services answer:

* A conversion is asked for only when an edit with an amount or a switch of an unsettled amount was
  taken one quiet period before, none has been taken since, nothing waits among the inputs, and the
  amount on the selected side is positive then.  It is the conversion of that amount.
* It always is asked for then: once nothing is left to do, none is owed that has not been.
* No quiet period ends without being noticed at that time.
* Whatever a conversion puts to the broker is the question of the conversion asked for last, and it
  is put at the time at which that one was asked for.
* Every conversion that is asked for puts its question at that time, unless an input that comes at
  the same time or the shutdown drops it.
* A burst leads to at most one conversion, and to exactly that of its last amount, one quiet period
  after it was typed, if it ends with an edit and the amount is positive.
* No conversion is in flight when another one is asked for. -/
theorem conversions_debounced
    (reached : Reaches (PipelineRun.move settings) (PipelineRun.start settings) past run)
    (punctual : IsPunctual settings past) :
    (∀ request ∈ requested past, Owed settings.window past request)
      ∧ (run.pipeline.duties = [] →
          ∀ request, Owed settings.window past request → request ∈ requested past)
      ∧ (run.pipeline.running = true →
          ∀ time, QuietUntil settings.window time past → run.now ≤ time)
      ∧ (∀ moment earlier source text target, moment :: earlier <:+ past →
          Puts (.quote source text target) moment →
          ∃ request, (requested earlier).head? = some request
            ∧ request.time = moment.before.now
            ∧ .quote source text target = request.question)
      ∧ (settings.conversionScale ≤ Decimal.maxScale →
          ∀ request ∈ requested past, request.time < run.now →
            ∃ moment ∈ past, Carries settings request moment)
      ∧ (∀ time last burst earlier, past = burst ++ earlier →
          Burst settings.window time last burst →
          (requested burst).length ≤ 1
            ∧ ∀ text amount, last = .edit text →
                AmountValue.ofText? text = some (.value amount) → amount.isPositive = true →
                run.pipeline.running = true → time + settings.window < run.now →
                ∃ entry, entry.source = .value amount
                  ∧ requested burst = [⟨time + settings.window, entry, amount⟩])
      ∧ ∀ moment ∈ past, (requested? moment).isSome →
          moment.before.pipeline.conversions.current = none := by
  have exactly : ∀ moment ∈ past, IsExact settings moment := fun moment member =>
    (punctual moment member).1
  have steady := steady_of_reaches reached punctual
  refine ⟨fun request member => ?_, fun free request owed => ?_,
    fun running time quiet => ?_, ?_, ?_, ?_, ?_⟩
  · exact (owed_iff reached punctual request).mpr (.inl member)
  · refine ((owed_iff reached punctual request).mp owed).resolve_right fun due => ?_
    simp [free] at due
  · exact now_le_due steady running ((quietUntil_iff reached punctual time).mp quiet)
  · intro moment earlier source text target suffix puts
    exact question_of_puts (reached.of_suffix suffix)
      (fun other member => exactly other (suffix.subset (List.mem_cons_of_mem _ member))) puts
  · intro places request member ended
    refine (carried_of_reaches reached exactly places member).resolve_left fun pending => ?_
    exact Nat.ne_of_lt ended pending.1
  · rintro time last burst earlier rfl bursts
    have phase := phase_of_burst bursts reached punctual
    refine ⟨phase.length_le, ?_⟩
    rintro text amount rfl typed positive running late
    exact phase.requested_eq steady running late typed positive
  · intro moment member asks
    obtain ⟨request, asks⟩ := Option.isSome_iff_exists.mp asks
    obtain ⟨earlier, after, _, reachedEarlier, moved⟩ := reached.exists_of_mem member
    exact nothing_flies_of_requested? reachedEarlier moved asks

/-! ## Two edits in a burst -/

/-- Whether a move keeps to the time. -/
def Sample.keepsTime (run : PipelineRun) : Move → Bool
  | .advance milliseconds =>
    [TaskName.session, .pipeline, .setup, .conversion, .bonus, .limits, .payment].all
        (fun task => (run.step {} task).isNone)
      && run.pipeline.duties.isEmpty
      && run.pipeline.debouncer.deadline.all (run.now + milliseconds ≤ ·)
  | _ => true

/-- A move that keeps to the times is punctual. -/
theorem Sample.punctual_of_keepsTime {run : PipelineRun} {event : Move}
    (keeps : keepsTime run event = true) :
    IsExact {} ⟨run, event⟩
      ∧ ∀ milliseconds, event = .advance milliseconds → run.pipeline.duties = [] := by
  have timely (milliseconds : Nat) (advances : event = .advance milliseconds) :
      (∀ task, run.step {} task = none) ∧ run.pipeline.duties = []
        ∧ ∀ deadline, run.pipeline.debouncer.deadline = some deadline →
          run.now + milliseconds ≤ deadline := by
    subst advances
    simp only [keepsTime, List.all_cons, List.all_nil, Bool.and_true, Bool.and_eq_true,
      Option.isNone_iff_eq_none, List.isEmpty_iff, Option.all_eq_true, decide_eq_true_iff] at keeps
    obtain ⟨⟨⟨session, pipeline, setup, conversion, bonus, limits, payment⟩, free⟩, early⟩ := keeps
    exact ⟨fun task => by cases task <;> assumption, free, early⟩
  refine ⟨fun milliseconds advances => ?_, fun milliseconds advances => ?_⟩
  · obtain ⟨still, _, early⟩ := timely milliseconds advances
    exact ⟨still, fun _ _ => early⟩
  · exact (timely milliseconds advances).2.1

/-- The input that a move takes, if it begins the quiet period. -/
def Sample.restarts? (run : PipelineRun) (event : Move) : Option AmountInput :=
  match event, run.pipeline.duties, run.sink.shutdown.isDown, run.pipeline.inputs with
  | .step .pipeline, [], false, input :: _ =>
    if Pipeline.beginsQuietWith run.pipeline.state.settled input then some input else none
  | _, _, _, _ => none

/-- Which input restarts the quiet period can be computed. -/
theorem Sample.restarts?_eq_some {run : PipelineRun} {event : Move} {input : AmountInput} :
    restarts? run event = some input ↔ Restarts input ⟨run, event⟩ := by
  constructor
  · intro begins
    unfold restarts? at begins
    split at begins
    · next free up waiting =>
        split at begins
        · next quiet =>
            obtain rfl := Option.some.inj begins
            exact ⟨⟨rfl, free, up⟩, ⟨_, waiting⟩, quiet⟩
        · cases begins
    · cases begins
  · rintro ⟨⟨own, free, up⟩, ⟨rest, waiting⟩, quiet⟩
    obtain rfl : event = .step .pipeline := own
    simp only [restarts?, show run.pipeline.duties = [] from free,
      show run.sink.shutdown.isDown = false from up,
      show run.pipeline.inputs = input :: rest from waiting,
      show Pipeline.beginsQuietWith run.pipeline.state.settled input = true from quiet, if_true]

/-- A move of a run that is in a burst, with the time and the input at which the burst is then.  The
move keeps to the time. -/
def Sample.burstMove (course : PipelineRun × Instant × AmountInput) (event : Move) :
    Option (PipelineRun × Instant × AmountInput) :=
  if keepsTime course.1 event then
    (course.1.move {} event).bind fun next =>
      match restarts? course.1 event with
      | none => some (next, course.2)
      | some input =>
        if course.1.now < course.2.1 + 700 then some (next, course.1.now, input) else none
  else none

/-- Moves that are checked to be a burst are one. -/
theorem Sample.burst_of_burstMoves {list : List Move}
    {course last : PipelineRun × Instant × AmountInput}
    {burst earlier : List (Moment PipelineRun Move)}
    (ran : list.foldlM burstMove course = some last)
    (reached : Reaches (PipelineRun.move {}) (start {}) (burst ++ earlier) course.1)
    (punctual : IsPunctual {} (burst ++ earlier))
    (bursts : Burst 700 course.2.1 course.2.2 burst) :
    ∃ burst, Reaches (PipelineRun.move {}) (start {}) (burst ++ earlier) last.1
      ∧ IsPunctual {} (burst ++ earlier) ∧ Burst 700 last.2.1 last.2.2 burst := by
  induction list generalizing course burst with
  | nil =>
      obtain rfl : course = last := Option.some.inj ran
      exact ⟨burst, reached, punctual, bursts⟩
  | cons event list ih =>
      obtain ⟨middle, moved, ran⟩ := Option.bind_eq_some_iff.mp ran
      unfold burstMove at moved
      split at moved
      · next keeps =>
          obtain ⟨next, stepped, goesOn⟩ := Option.bind_eq_some_iff.mp moved
          have punctualNext : IsPunctual {} (⟨course.1, event⟩ :: burst ++ earlier) :=
            List.forall_mem_cons.mpr ⟨punctual_of_keepsTime keeps, punctual⟩
          cases begins : restarts? course.1 event with
          | none =>
              rw [begins] at goesOn
              obtain rfl := Option.some.inj goesOn
              have calm (input : AmountInput) : ¬ Restarts input ⟨course.1, event⟩ :=
                fun other => nomatch begins.symm.trans (restarts?_eq_some.mpr other)
              exact ih ran (.step reached stepped) punctualNext (.waits bursts calm)
          | some input =>
              simp only [begins] at goesOn
              split at goesOn
              · next soon =>
                  obtain rfl := Option.some.inj goesOn
                  exact ih ran (.step reached stepped) punctualNext
                    (.goesOn bursts (restarts?_eq_some.mp begins) soon)
              · cases goesOn
      · cases moved

/-- One euro is waiting to be taken. -/
def Sample.waiting : PipelineRun := after (start {}) [.send (.edit "1")]

/-- One euro is taken, twelve euros are typed before the quiet period is over, and then time goes
on until their conversion has been put to the broker. -/
def Sample.burstMoves : List Move :=
  own 5 ++ [Move.advance 300, .send (.edit "12")] ++ own 6 ++ [Move.advance 700] ++ own 2
    ++ [Move.step .conversion, .advance 1]

/-- The run at the end of these moves. -/
def Sample.quoted : PipelineRun := after (after waiting (own 1)) burstMoves

theorem conversions_debounced_of_two_edits :
    ∃ burst earlier, Reaches (PipelineRun.move {}) (start {}) (burst ++ earlier) Sample.quoted
      ∧ IsPunctual {} (burst ++ earlier)
      ∧ Burst 700 300 (.edit "12") burst
      ∧ ∃ entry, requested burst = [⟨1000, entry, Sample.whole 12⟩] := by
  have came : (start {}).move {} (.send (.edit "1")) = some Sample.waiting := by rfl
  have taken : Sample.waiting.move {} (.step .pipeline)
      = some (Sample.after Sample.waiting (Sample.own 1)) := by rfl
  have reached : Reaches (PipelineRun.move {}) (start {})
      ([⟨Sample.waiting, .step .pipeline⟩] ++ [⟨start {}, .send (.edit "1")⟩])
      (Sample.after Sample.waiting (Sample.own 1)) := .step (.step .start came) taken
  have punctual : IsPunctual {}
      ([⟨Sample.waiting, .step .pipeline⟩] ++ [⟨start {}, .send (.edit "1")⟩]) :=
    List.forall_mem_cons.mpr ⟨Sample.punctual_of_keepsTime rfl,
      List.forall_mem_cons.mpr ⟨Sample.punctual_of_keepsTime rfl,
        fun _ member => absurd member List.not_mem_nil⟩⟩
  have begins : Sample.restarts? Sample.waiting (.step .pipeline) = some (.edit "1") := by rfl
  have opens : Burst 700 0 (.edit "1") [⟨Sample.waiting, .step .pipeline⟩] :=
    .opens (Sample.restarts?_eq_some.mp begins)
  have ran : Sample.burstMoves.foldlM Sample.burstMove
      (Sample.after Sample.waiting (Sample.own 1), 0, .edit "1")
      = some (Sample.quoted, 300, .edit "12") := by rfl
  obtain ⟨burst, reachedAll, punctualAll, bursts⟩ :=
    Sample.burst_of_burstMoves ran reached punctual opens
  obtain ⟨_, _, _, _, _, leads, _⟩ := conversions_debounced reachedAll punctualAll
  have typed : AmountValue.ofText? "12" = some (.value (Sample.whole 12)) := by rfl
  have positive : (Sample.whole 12).isPositive = true := by rfl
  have running : Sample.quoted.pipeline.running = true := by rfl
  have now : Sample.quoted.now = 1001 := by rfl
  have late : 300 + 700 < Sample.quoted.now := by
    rw [now]
    decide
  obtain ⟨entry, _, asked⟩ :=
    (leads 300 _ burst _ rfl bursts).2 "12" _ rfl typed positive running late
  exact ⟨burst, _, reachedAll, punctualAll, bursts, entry, asked⟩

end PipelineRun

end WalletTopUp
