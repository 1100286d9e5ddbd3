import WalletTopUp.Pipeline.Basic

/-!
# Steps of the pipeline

The pipeline's own task takes what is most urgent: a shutdown before an input, an input before the
end of the quiet period, and that before the results of background tasks.  Every background task is
a task of its own, which moves when its open call is answered.
-/

namespace WalletTopUp

/-- The tasks of a screen. -/
inductive TaskName where
  | session
  | pipeline
  | setup
  | conversion
  | bonus
  | limits
  | payment
deriving DecidableEq, Inhabited

namespace Pipeline

/-- Take what is most urgent, if there is anything to take. -/
def takeNext (now : Instant) (shutdown : Shutdown) (pipeline : Pipeline) : Option Pipeline :=
  if shutdown.isDown then some pipeline.stop
  else match pipeline.inputs with
    | input :: rest => some { pipeline with inputs := rest, duties := inputDuties input }
    | [] =>
      if !pipeline.inputsOpen then some pipeline.stop
      else if pipeline.debouncer.elapsed now then
        some { pipeline with debouncer := pipeline.debouncer.disarm, duties := [.convert] }
      else match pipeline.completions with
        | [] => none
        | completion :: rest =>
          some { pipeline with
            completions := rest
            limits := match completion with
              | .limitsLoaded _ => .idle
              | _ => pipeline.limits
            duties := pipeline.completionDuties completion }

/-- One step of the pipeline's own task, `none` if it has to wait. -/
def step (settings : PipelineSettings) (now : Instant) (pipeline : Pipeline)
    (sink : Sink TaskName) : Option (Pipeline × Sink TaskName) :=
  if !pipeline.running then none
  else match pipeline.duties with
    | [] => (pipeline.takeNext now sink.shutdown).map fun next => (next, sink)
    | .emit effect :: rest =>
      match sink.emit .pipeline effect with
      | (.waits, later) => if sink.waiting.contains .pipeline then none else some (pipeline, later)
      | (_, later) => some ({ pipeline with duties := rest }, later)
    | duty :: rest => some ({ pipeline with duties := rest }.perform settings now duty, sink)

/-! ## Background tasks -/

/-- What a finished conversion reports.  A failed one reports nothing. -/
def convertedReport (ticket : Ticket) : ConversionResult → List Completion
  | .error _ => []
  | .ok money => [.converted ticket (.ofDecimal money.amount)]

/-- The end of the conversion in flight. -/
def finishConversion (pipeline : Pipeline) : Option Pipeline :=
  match pipeline.conversions.current with
  | none => none
  | some work => work.exchange.result?.map fun result =>
    { pipeline with
      conversions := pipeline.conversions.finish
      completions := pipeline.completions ++ convertedReport work.ticket result }

/-- The end of the forecast in flight. -/
def finishBonus (pipeline : Pipeline) : Option Pipeline :=
  match pipeline.bonuses.current with
  | none => none
  | some work => work.exchange.result?.map fun bonus =>
    { pipeline with
      bonuses := pipeline.bonuses.finish
      completions := pipeline.completions ++ [.bonusLoaded work.ticket bonus] }

/-- The end of loading the limits. -/
def finishLimits (pipeline : Pipeline) : Option Pipeline :=
  match pipeline.limits with
  | .loading exchange => exchange.result?.map fun limits =>
    { pipeline with
      limits := .reported
      completions := pipeline.completions ++ [.limitsLoaded limits] }
  | _ => none

/-- The end of a background task. -/
def finish (pipeline : Pipeline) : TaskName → Option Pipeline
  | .conversion => pipeline.finishConversion
  | .bonus => pipeline.finishBonus
  | .limits => pipeline.finishLimits
  | _ => none

/-- The request that a background task puts out next. -/
def ask? (pipeline : Pipeline) : TaskName → Option (Request × (CallId → Pipeline))
  | .conversion =>
    match pipeline.conversions.current with
    | none => none
    | some work => work.exchange.ask?.map fun (request, resume) =>
      (request, fun call =>
        { pipeline with
          conversions := pipeline.conversions.attach { work with exchange := resume call } })
  | .bonus =>
    match pipeline.bonuses.current with
    | none => none
    | some work => work.exchange.ask?.map fun (request, resume) =>
      (request, fun call =>
        { pipeline with
          bonuses := pipeline.bonuses.attach { work with exchange := resume call } })
  | .limits =>
    match pipeline.limits with
    | .loading exchange => exchange.ask?.map fun (request, resume) =>
      (request, fun call => { pipeline with limits := .loading (resume call) })
    | _ => none
  | _ => none

/-- Work that hears the answer to a call. -/
def hearWork (call : CallId) (server : Server) (latest : SwitchLatest (Ticketed α)) :
    SwitchLatest (Ticketed α) :=
  { latest with
    current := latest.current.map fun work =>
      { work with exchange := work.exchange.hear call server } }

/-- The pipeline after a call is answered. -/
def hear (call : CallId) (server : Server) (pipeline : Pipeline) : Pipeline :=
  { pipeline with
    conversions := hearWork call server pipeline.conversions
    bonuses := hearWork call server pipeline.bonuses
    limits := match pipeline.limits with
      | .loading exchange => .loading (exchange.hear call server)
      | other => other }

/-- The calls of all background tasks. -/
def openCalls (pipeline : Pipeline) : List (CallId × Request) :=
  let conversion := match pipeline.conversions.current with
    | none => []
    | some work => work.exchange.openCalls
  let bonus := match pipeline.bonuses.current with
    | none => []
    | some work => work.exchange.openCalls
  let limits := match pipeline.limits with
    | .loading exchange => exchange.openCalls
    | _ => []
  conversion ++ bonus ++ limits

/-! ## Inputs -/

/-- Whether there is a place for another input. -/
def hasPlace (pipeline : Pipeline) : Bool := pipeline.inputs.length < queueCapacity

/-- The pipeline with an input waiting. -/
def send (pipeline : Pipeline) (input : AmountInput) : Pipeline :=
  { pipeline with inputs := pipeline.inputs ++ [input] }

end Pipeline

end WalletTopUp
