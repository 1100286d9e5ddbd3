import WalletTopUp.Proofs.Pipeline.Inputs
import WalletTopUp.Proofs.Rates.Answers

/-!
# What happened to a pipeline

Names for the moments that decide what a result is worth: when a request was begun, when it was put
out and answered, and when it was superseded, which a conversion is by an accepted edit and by a
switch of sides before the amount has settled.  `Pipeline.LearnedSince` is the whole story of an
answer: something began, then the request was put out, then it was answered, and all the while since
then a condition was kept.
-/

namespace WalletTopUp

namespace Pipeline

variable {settings : PipelineSettings} {pipeline next : Pipeline} {past : History}
  {moment : Moment Pipeline Turn}

/-- At this moment the pipeline's own task comes to a duty.  Unless it emits, it does it. -/
def Does (duty : Duty) (moment : Moment Pipeline Turn) : Prop :=
  (∃ now sink, moment.event = .own now sink) ∧ ∃ rest, moment.before.duties = duty :: rest

/-- A pipeline with nothing left to do does nothing. -/
theorem not_does_of_free {turn : Turn} {duty : Duty} (free : pipeline.duties = []) :
    ¬ Does duty ⟨pipeline, turn⟩ := by
  rintro ⟨_, _, head⟩
  cases free.symm.trans head

/-- A pipeline does what comes first and nothing else. -/
theorem not_does_of_head {turn : Turn} {duty other : Duty} {rest : List Duty}
    (head : pipeline.duties = duty :: rest)
    (unlike : duty ≠ other) : ¬ Does other ⟨pipeline, turn⟩ := by
  rintro ⟨_, _, here⟩
  exact unlike (List.cons.inj (head.symm.trans here)).1

/-- Whatever was asked for before this moment is superseded: an edit is taken over, or the sides are
switched before the amount has settled. -/
def Disturbs (moment : Moment Pipeline Turn) : Prop :=
  (∃ text, Does (.publish (.amountEdited text)) moment)
    ∨ (Does (.publish .currencySwitched) moment ∧ moment.before.state.settled = false)

/-- Nothing that was asked for is superseded at this moment. -/
def Calm (moment : Moment Pipeline Turn) : Prop := ¬ Disturbs moment

/-- A background task puts out a request as the call of this number. -/
def Asks (task : TaskName) (call : CallId) (request : Request)
    (moment : Moment Pipeline Turn) : Prop :=
  moment.event = .ask task call ∧ (moment.before.ask? task).map Prod.fst = some request

/-- The call of this number is answered. -/
def Hears (call : CallId) (request : Request) (answer : request.Answer)
    (moment : Moment Pipeline Turn) : Prop :=
  ∃ server, moment.event = .hear call server ∧ server request = answer

/-- Something began, then the request was put out, and a condition has been kept since it began. -/
def AskedSince (keeps began : Moment Pipeline Turn → Prop) (task : TaskName) (past : History)
    (call : CallId) (request : Request) : Prop :=
  Since keeps (fun moment before =>
    Asks task call request moment ∧ Since keeps (fun moment _ => began moment) before) past

/-- Something began, then the request was put out and later answered, and a condition has been kept
since it began. -/
def LearnedSince (keeps began : Moment Pipeline Turn → Prop) (task : TaskName) (past : History)
    (request : Request) (answer : request.Answer) : Prop :=
  Since keeps (fun moment before =>
    ∃ call, Hears call request answer moment
      ∧ AskedSince keeps began task before call request) past

/-- A duty is calm unless it takes over an edit or switches the sides of an unsettled amount. -/
theorem calm_of_head {now : Instant} {sink : Sink TaskName} {duty : Duty} {rest : List Duty}
    (head : pipeline.duties = duty :: rest)
    (edits : ∀ text, duty ≠ .publish (.amountEdited text))
    (switches : duty = .publish .currencySwitched → pipeline.state.settled = true) :
    Calm ⟨pipeline, .own now sink⟩ := by
  rintro (⟨text, _, _, same⟩ | ⟨⟨_, _, same⟩, unsettled⟩)
  · rw [head] at same
    exact edits text (List.cons.inj same).1
  · rw [head] at same
    exact Bool.noConfusion (unsettled.symm.trans (switches (List.cons.inj same).1))

/-- A pipeline with nothing left to do supersedes nothing. -/
theorem calm_of_free {now : Instant} {sink : Sink TaskName} (free : pipeline.duties = []) :
    Calm ⟨pipeline, .own now sink⟩ := by
  rintro (⟨_, _, _, same⟩ | ⟨⟨_, _, same⟩, _⟩) <;>
    · rw [free] at same
      cases same

/-- A background task supersedes nothing. -/
theorem calm_of_background {turn : Turn} (step : BackgroundStep pipeline turn next) :
    Calm ⟨pipeline, turn⟩ := by
  have notOwn : ∀ now sink, turn ≠ .own now sink := by
    cases step <;> simp
  rintro (⟨_, ⟨now, sink, same⟩, _⟩ | ⟨⟨⟨now, sink, same⟩, _⟩, _⟩) <;> exact notOwn now sink same

/-- The conversion task asks what its dialogue asks. -/
theorem ask?_conversion {work : Ticketed ConversionResult}
    (current : pipeline.conversions.current = some work) :
    (pipeline.ask? .conversion).map Prod.fst = work.exchange.ask?.map Prod.fst := by
  simp only [ask?, current, Option.map_map]
  rfl

/-- The bonus task asks what its dialogue asks. -/
theorem ask?_bonus {work : Ticketed (Option BonusForecast)}
    (current : pipeline.bonuses.current = some work) :
    (pipeline.ask? .bonus).map Prod.fst = work.exchange.ask?.map Prod.fst := by
  simp only [ask?, current, Option.map_map]
  rfl

/-- The limits task asks what its dialogue asks. -/
theorem ask?_limits {exchange : Exchange (Option TopUpLimits)}
    (current : pipeline.limits = .loading exchange) :
    (pipeline.ask? .limits).map Prod.fst = exchange.ask?.map Prod.fst := by
  simp only [ask?, current, Option.map_map]
  rfl

/-- An exchange that puts out a request goes on following its dialogue. -/
theorem follows_ask {α : Type} {keeps began : Moment Pipeline Turn → Prop} {task : TaskName}
    {call : CallId} {request : Request} {dialogue : Dialogue α} {exchange : Exchange α}
    {resume : CallId → Exchange α}
    (follows : exchange.Follows (AskedSince keeps began task past)
      (LearnedSince keeps began task past) dialogue)
    (since : Since keeps (fun moment _ => began moment) past)
    (kept : keeps ⟨pipeline, .ask task call⟩)
    (asks : exchange.ask? = some (request, resume))
    (same : (pipeline.ask? task).map Prod.fst = exchange.ask?.map Prod.fst) :
    (resume call).Follows (AskedSince keeps began task (⟨pipeline, .ask task call⟩ :: past))
      (LearnedSince keeps began task (⟨pipeline, .ask task call⟩ :: past)) dialogue := by
  refine (follows.mono (fun _ _ asked => .later kept asked) fun _ _ learned =>
    .later kept learned).ask asks (.now ⟨⟨rfl, ?_⟩, since⟩)
  rw [same, asks, Option.map_some]

/-- An exchange that hears an answer goes on following its dialogue. -/
theorem follows_hear {α : Type} {keeps began : Moment Pipeline Turn → Prop} {task : TaskName}
    {call : CallId} {server : Server} {dialogue : Dialogue α} {exchange : Exchange α}
    (follows : exchange.Follows (AskedSince keeps began task past)
      (LearnedSince keeps began task past) dialogue)
    (kept : keeps ⟨pipeline, .hear call server⟩) :
    (exchange.hear call server).Follows
      (AskedSince keeps began task (⟨pipeline, .hear call server⟩ :: past))
      (LearnedSince keeps began task (⟨pipeline, .hear call server⟩ :: past)) dialogue :=
  follows.hear (fun _ _ asked => .later kept asked) (fun _ _ learned => .later kept learned)
    fun _ asked => .now ⟨call, ⟨server, rfl, rfl⟩, asked⟩

/-- An exchange that is left alone goes on following its dialogue. -/
theorem follows_later {α : Type} {keeps began : Moment Pipeline Turn → Prop} {task : TaskName}
    {dialogue : Dialogue α} {exchange : Exchange α}
    (follows : exchange.Follows (AskedSince keeps began task past)
      (LearnedSince keeps began task past) dialogue)
    (kept : keeps moment) :
    exchange.Follows (AskedSince keeps began task (moment :: past))
      (LearnedSince keeps began task (moment :: past)) dialogue :=
  follows.mono (fun _ _ asked => .later kept asked) fun _ _ learned => .later kept learned

/-! ## What is taken over comes first -/

/-- Only the next duty may take over what has been set up, loaded or derived. -/
def RenewsFirst (pipeline : Pipeline) : Prop :=
  ∀ duty ∈ pipeline.duties.tail, renews duty = false

/-- Of what a duty adds only the first takes anything over. -/
theorem not_renews_of_mem_tail_added {state : ScreenState} {duty new : Duty}
    (member : new ∈ (added state duty).tail) : renews new = false := by
  by_contra takes
  have inside := List.mem_of_mem_tail member
  have leads := settles_of_renews_of_mem_added inside ((Bool.not_eq_false _).mp takes)
  rcases settles_of_mem_added inside leads with ⟨rfl, _⟩ | ⟨derived, rfl, rfl⟩
  · simp only [added] at member
    split at member
    · cases member
    · cases member
    · split at member <;> cases member
  · simp [added] at member

/-- Of what an input asks for only the first takes anything over. -/
theorem not_renews_of_mem_tail_inputDuties {input : AmountInput} {duty : Duty}
    (member : duty ∈ (inputDuties input).tail) : renews duty = false := by
  refine not_renews_of_mem_inputDuties (List.mem_of_mem_tail member) ?_
  rintro methods currency rfl
  rcases input_of_publish (List.mem_of_mem_tail member) with
    ⟨_, _, rfl, _⟩ | ⟨_, _, same⟩ | ⟨_, same⟩ | ⟨_, _, same⟩
  · cases List.mem_singleton.mp member
  · cases same
  · cases same
  · cases same

/-- Of what a finished request asks for only the first takes anything over. -/
theorem not_renews_of_mem_tail_completionDuties {completion : Completion} {duty : Duty}
    (member : duty ∈ (pipeline.completionDuties completion).tail) : renews duty = false := by
  cases completion with
  | converted ticket derived =>
      simp only [completionDuties] at member
      split at member <;> cases member
  | limitsLoaded limits =>
      cases limits with
      | none => cases member
      | some limits =>
          rw [List.mem_singleton.mp member]
          rfl
  | bonusLoaded ticket bonus =>
      simp only [completionDuties] at member
      split at member
      · simp only [List.tail_cons, List.mem_cons, List.not_mem_nil, or_false] at member
        rcases member with rfl | rfl <;> rfl
      · cases member

/-- Every step of the pipeline's own task keeps what is taken over in the first place. -/
theorem RenewsFirst.ownStep {now : Instant} {sink : Sink TaskName}
    (first : pipeline.RenewsFirst)
    (step : OwnStep settings now sink pipeline next) : next.RenewsFirst := by
  intro duty member
  cases step with
  | stops _ _ | waits _ _ => exact first duty member
  | input _ _ => exact not_renews_of_mem_tail_inputDuties member
  | deadline _ _ => cases member
  | completion _ _ => exact not_renews_of_mem_tail_completionDuties member
  | tells head _ => exact first duty (head ▸ List.mem_of_mem_tail member)
  | @performs done rest head _ =>
      rw [duties_perform] at member
      have left : ∀ duty ∈ rest, renews duty = false := fun duty member => by
        refine first duty ?_
        rw [head]
        exact member
      cases same : added pipeline.state done with
      | nil =>
          rw [same] at member
          exact left duty (List.mem_of_mem_tail member)
      | cons new others =>
          rw [same] at member
          rcases List.mem_append.mp member with other | rest
          · have tail : duty ∈ (added pipeline.state done).tail := by
              rw [same]
              exact other
            exact not_renews_of_mem_tail_added tail
          · exact left duty rest

/-- In every run a duty that takes something over comes first. -/
theorem renewsFirst_of_reaches
    (reached : Reaches (Pipeline.turn settings) (start settings) past pipeline) :
    pipeline.RenewsFirst := by
  induction reached with
  | start =>
      intro duty member
      cases member
  | step _ moved ih =>
      rcases step_of_turn moved with ⟨now, sink, rfl, _, step⟩ | step
      · exact ih.ownStep step
      · intro duty member
        exact ih duty ((background_of_backgroundStep step).duties ▸ member)

/-- Only the next duty may be a step of deriving the other side. -/
def SettlesFirst (pipeline : Pipeline) : Prop := ∀ duty ∈ pipeline.duties.tail, settles duty = false

/-- In every run a step of deriving the other side comes first. -/
theorem settlesFirst_of_reaches
    (reached : Reaches (Pipeline.turn settings) (start settings) past pipeline) :
    pipeline.SettlesFirst := fun duty member =>
  not_settles_of_not_renews (renewsFirst_of_reaches reached duty member)

end Pipeline

end WalletTopUp
