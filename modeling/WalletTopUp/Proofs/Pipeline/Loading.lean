import WalletTopUp.Proofs.Pipeline.Limits

/-!
# Loading the limits once

The limits are loaded by one task at a time, and only while they are not known.  A request for them
that is not answered yet is the open call of that task (`Pipeline.Loads`), so the task never puts
out another one beside it (`Pipeline.limits_asked_alone`).  Limits that are known never change
(`Pipeline.limits_kept`).
-/

namespace WalletTopUp

namespace Pipeline

variable {settings : PipelineSettings} {pipeline next : Pipeline} {past : History}
  {moment : Moment Pipeline Turn} {call : CallId} {request : Request}

/-- The call of this number has asked for the limits and has not been answered since. -/
def AwaitsLimits (call : CallId) (past : History) : Prop :=
  Since (fun moment => ∀ server, moment.event ≠ .hear call server)
    (fun moment _ => ∃ request, Asks .limits call request moment) past

/-- The task that loads the limits asks a single question. -/
theorem LoadsLimits.waiting_of_ask {exchange : Exchange (Option TopUpLimits)}
    {resume : CallId → Exchange (Option TopUpLimits)}
    (loads : LoadsLimits past exchange)
    (asks : exchange.ask? = some (request, resume)) :
    ∃ goesOn, ∀ call, resume call = .waiting call request goesOn := by
  obtain ⟨currency, _, follows⟩ := loads
  cases exchange with
  | ready dialogue =>
      have leads : (limitsOf currency).Leads _ dialogue := follows
      cases leads with
      | here =>
          obtain ⟨rfl, rfl⟩ := Prod.mk.inj (Option.some.inj asks)
          exact ⟨_, fun _ => rfl⟩
      | @call _ _ answer _ _ rest =>
          cases answer <;> cases rest <;> cases asks
  | waiting _ _ _ => cases asks
  | pair first second left right firstFailed secondFailed goesOn =>
      have leads : (limitsOf currency).Leads _
        (.both first second firstFailed secondFailed goesOn) := follows.1
      cases leads with
      | @call _ _ answer _ _ rest => cases answer <;> cases rest

/-- While limits are asked for or known they are not asked for again. -/
theorem limits_startLimits (busy : pipeline.limits ≠ .idle) :
    pipeline.startLimits.limits = pipeline.limits := by
  simp only [startLimits]
  split
  · next _ idle => exact (busy idle).elim
  · rfl

/-! ## The invariant -/

/-- Where loading the limits has got. -/
structure Loads (past : History) (pipeline : Pipeline) : Prop where
  /-- A request that is not answered is the open call of the task, unless the task was dropped. -/
  waiting : ∀ call, AwaitsLimits call past →
    (∃ request resume, pipeline.limits = .loading (.waiting call request resume))
      ∨ (pipeline.running = false ∧ pipeline.limits = .idle)
  publishing : ∀ limits, .publish (.limitsLoaded limits) ∈ pipeline.duties →
    pipeline.limits = .idle
  unknown : pipeline.limits ≠ .idle → pipeline.state.limits = none

/-- Before the first turn nothing is being loaded. -/
theorem loads_start : Loads [] (start settings) where
  waiting _ awaits := by cases awaits
  publishing _ member := by cases member
  unknown busy := (busy rfl).elim

/-- What is not answered was not answered before, unless it is asked now. -/
theorem AwaitsLimits.earlier {turn : Turn}
    (awaits : AwaitsLimits call (⟨pipeline, turn⟩ :: past))
    (silent : turn ≠ .ask .limits call) :
    AwaitsLimits call past ∧ ∀ server, turn ≠ .hear call server := by
  cases awaits with
  | now asked =>
      obtain ⟨_, same, _⟩ := asked
      exact (silent same).elim
  | later kept before => exact ⟨before, kept⟩

/-- An unanswered request of a pipeline that is running belongs to its task. -/
theorem Loads.waiting_of_running {turn : Turn}
    (loads : Loads past pipeline)
    (running : pipeline.running = true)
    (silent : turn ≠ .ask .limits call)
    (awaits : AwaitsLimits call (⟨pipeline, turn⟩ :: past)) :
    ∃ request resume, pipeline.limits = .loading (.waiting call request resume) := by
  rcases loads.waiting call (awaits.earlier silent).1 with loading | ⟨stopped, _⟩
  · exact loading
  · exact Bool.noConfusion (running.symm.trans stopped)

/-- Limits that are not known become known only by being published. -/
theorem limits_published {state : ScreenState} {duty : Duty}
    (unknown : state.limits = none)
    (other : ∀ limits, duty ≠ .publish (.limitsLoaded limits)) :
    (published state duty).limits = none := by
  cases duty with
  | publish action =>
      cases known : (state.next action).limits with
      | none => exact known
      | some limits =>
          rcases ScreenState.limits_next known with rfl | earlier
          · exact (other limits rfl).elim
          · cases unknown.symm.trans earlier
  | _ => exact unknown

/-- Performing a duty keeps it: this is where loading begins. -/
theorem Loads.performs {duty : Duty} {rest : List Duty} {now : Instant} {sink : Sink TaskName}
    (loads : Loads past pipeline)
    (first : pipeline.RenewsFirst)
    (running : pipeline.running = true)
    (head : pipeline.duties = duty :: rest) :
    Loads (⟨pipeline, .own now sink⟩ :: past)
      (({ pipeline with duties := rest } : Pipeline).perform settings now duty) := by
  have done := performed settings now pipeline duty rest
  have busy : pipeline.limits ≠ .idle →
      (({ pipeline with duties := rest } : Pipeline).perform settings now duty).limits
        = pipeline.limits := by
    intro busy
    by_cases starts : duty = .loadLimits
    · subst starts
      exact limits_startLimits busy
    · exact done.limits starts
  refine ⟨fun call awaits => .inl ?_, fun limits member => ?_, fun started => ?_⟩
  · obtain ⟨request, resume, waiting⟩ := loads.waiting_of_running running (by simp) awaits
    refine ⟨request, resume, (busy ?_).trans waiting⟩
    rw [waiting]
    simp
  · rw [done.duties] at member
    rcases List.mem_append.mp member with new | left
    · rcases publish_mem_added new with ⟨_, _, same⟩ | ⟨_, same⟩ | same <;> cases same
    · cases first _ (by rw [head]; exact left)
  · -- The task may be running already or begin now; limits that are published have ended it.
    rw [done.state]
    by_cases publishes : ∃ limits, duty = .publish (.limitsLoaded limits)
    · obtain ⟨limits, rfl⟩ := publishes
      have idle := loads.publishing limits (head ▸ List.mem_cons_self)
      exact (started ((done.limits (by simp)).trans idle)).elim
    · have other : ∀ limits, duty ≠ .publish (.limitsLoaded limits) := fun limits same =>
        publishes ⟨limits, same⟩
      refine limits_published ?_ other
      by_cases idle : pipeline.limits = .idle
      · by_cases starts : duty = .loadLimits
        · subst starts
          by_contra known
          refine started ?_
          obtain ⟨limits, known⟩ := Option.ne_none_iff_exists'.mp known
          simp only [perform, startLimits, known, idle]
        · exact (started ((done.limits starts).trans idle)).elim
      · exact loads.unknown idle

/-- A step of the pipeline itself keeps it. -/
theorem Loads.ownStep {now : Instant} {sink : Sink TaskName}
    (loads : Loads past pipeline)
    (accounted : pipeline.Accounted)
    (first : pipeline.RenewsFirst)
    (running : pipeline.running = true)
    (step : OwnStep settings now sink pipeline next) :
    Loads (⟨pipeline, .own now sink⟩ :: past) next := by
  have waiting : ∀ call, AwaitsLimits call (⟨pipeline, .own now sink⟩ :: past) →
      ∃ request resume, pipeline.limits = .loading (.waiting call request resume) := fun call =>
    loads.waiting_of_running running (by simp)
  cases step with
  | stops _ _ => exact ⟨fun _ _ => .inr ⟨rfl, rfl⟩, fun _ _ => rfl, fun busy => (busy rfl).elim⟩
  | @input input _ _ _ =>
      refine ⟨fun call awaits => .inl (waiting call awaits), fun limits member => ?_,
        loads.unknown⟩
      rcases input_of_publish member with ⟨_, _, _, same⟩ | ⟨_, _, same⟩ | ⟨_, same⟩ | ⟨_, _, same⟩
        <;> cases same
  | deadline _ _ =>
      refine ⟨fun call awaits => .inl (waiting call awaits), fun limits member => ?_,
        loads.unknown⟩
      cases List.mem_singleton.mp member
  | @completion completion rest _ queued =>
      refine ⟨fun call awaits => .inl ?_, fun limits member => ?_, fun busy => ?_⟩
      · obtain ⟨request, resume, loading⟩ := waiting call awaits
        refine ⟨request, resume, ?_⟩
        cases completion with
        -- A report of the limits and a load that is still under way exclude each other.
        | limitsLoaded limits =>
            have count := accounted.limits running
            rw [queued, loading, List.countP_cons_of_pos rfl] at count
            exact (Nat.succ_ne_zero _ count).elim
        | converted _ _ | bonusLoaded _ _ => exact loading
      · rcases publish_mem_completionDuties member with ⟨_, rfl, _⟩ | ⟨_, _, _, _, same⟩
        · rfl
        · cases same
      · refine loads.unknown fun idle => busy ?_
        cases completion with
        | limitsLoaded _ => rfl
        | converted _ _ | bonusLoaded _ _ => exact idle
  | waits _ _ =>
      exact ⟨fun call awaits => .inl (waiting call awaits), loads.publishing, loads.unknown⟩
  | tells head _ =>
      exact ⟨fun call awaits => .inl (waiting call awaits),
        fun limits member => loads.publishing limits (head ▸ List.mem_cons_of_mem _ member),
        loads.unknown⟩
  | performs head _ => exact loads.performs first running head

/-- A step of background work keeps it: this is where loading goes on and ends. -/
theorem Loads.backgroundStep {turn : Turn}
    (loads : Loads past pipeline)
    (limited : Limited past pipeline)
    (step : BackgroundStep pipeline turn next) : Loads (⟨pipeline, turn⟩ :: past) next := by
  obtain ⟨waiting, publishing, unknown⟩ := loads
  have still : ∀ call, turn ≠ .ask .limits call → AwaitsLimits call (⟨pipeline, turn⟩ :: past) →
      (∃ request resume, pipeline.limits = .loading (.waiting call request resume))
        ∨ (pipeline.running = false ∧ pipeline.limits = .idle) := fun call silent awaits =>
    waiting call (awaits.earlier silent).1
  cases step with
  | askConversion _ _ | askBonus _ _ | endConversion _ _ | endBonus _ _ | send | close =>
      exact ⟨fun call awaits => still call (by simp) awaits, publishing, unknown⟩
  | @askLimits exchange request resume call current asks =>
      refine ⟨fun other awaits => .inl ?_, fun limits member => ?_, fun _ => unknown ?_⟩
      · cases awaits with
        | now asked =>
            obtain ⟨_, same, _⟩ := asked
            cases same
            obtain ⟨goesOn, waits⟩ := (limited.loading _ current).waiting_of_ask asks
            exact ⟨request, goesOn, congrArg LimitsLoad.loading (waits _)⟩
        | later _ before =>
            rcases waiting other before with ⟨_, _, loading⟩ | ⟨_, idle⟩
            · obtain rfl := LimitsLoad.loading.inj (current.symm.trans loading)
              cases asks
            · cases current.symm.trans idle
      · cases current.symm.trans (publishing limits member)
      · rw [current]
        simp
  | endLimits current ended =>
      refine ⟨fun call awaits => ?_, fun limits member => ?_, fun _ => unknown ?_⟩
      · rcases still call (by simp) awaits with ⟨_, _, loading⟩ | ⟨_, idle⟩
        · obtain rfl := LimitsLoad.loading.inj (current.symm.trans loading)
          cases ended
        · cases current.symm.trans idle
      · cases current.symm.trans (publishing limits member)
      · rw [current]
        simp
  | @hear call server =>
      have idle : (pipeline.hear call server).limits = .idle ↔ pipeline.limits = .idle :=
        (background_of_backgroundStep (.hear : BackgroundStep pipeline _ _)).limits
      refine ⟨fun other awaits => ?_, fun limits member => idle.mpr (publishing limits member),
        fun busy => unknown fun was => busy (idle.mpr was)⟩
      rcases still other (by simp) awaits with ⟨request, resume, loading⟩ | ⟨stopped, was⟩
      · refine .inl ⟨request, resume, ?_⟩
        have unanswered : ¬ other = call := fun same =>
          (awaits.earlier (by simp)).2 server (by rw [same])
        simp only [Pipeline.hear, loading, Exchange.hear, beq_eq_false_iff_ne.mpr unanswered,
          Bool.false_eq_true, if_false]
      · exact .inr ⟨stopped, idle.mpr was⟩

/-- It holds at every moment of every run. -/
theorem loads_of_reaches
    (reached : Reaches (Pipeline.turn settings) (start settings) past pipeline) :
    Loads past pipeline := by
  induction reached with
  | start => exact loads_start
  | step earlier moved ih =>
      rcases step_of_turn moved with ⟨now, sink, rfl, running, step⟩ | step
      · exact ih.ownStep (accounted_of_reaches earlier) (renewsFirst_of_reaches earlier) running
          step
      · exact ih.backgroundStep (limited_of_reaches earlier) step

/-! ## At most one request, and only while it is needed -/

/-- **The limits are asked for only while they are not known, and never while an earlier request
for them is open.** -/
theorem limits_asked_alone {turn : Turn}
    (reached : Reaches (Pipeline.turn settings) (start settings) past pipeline)
    (asks : Asks .limits call request ⟨pipeline, turn⟩) :
    pipeline.state.limits = none ∧ ∀ former, ¬ AwaitsLimits former past := by
  have loads := loads_of_reaches reached
  obtain ⟨_, asked⟩ := asks
  obtain ⟨exchange, current, puts⟩ : ∃ exchange, pipeline.limits = .loading exchange
      ∧ exchange.ask? ≠ none := by
    have asked : (pipeline.ask? .limits).map Prod.fst = some request := asked
    cases current : pipeline.limits with
    | loading exchange =>
        rw [ask?_limits current] at asked
        refine ⟨exchange, rfl, fun silent => ?_⟩
        rw [silent] at asked
        cases asked
    | idle | reported =>
        simp only [ask?, current] at asked
        cases asked
  refine ⟨loads.unknown (by rw [current]; simp), fun former awaits => ?_⟩
  rcases loads.waiting former awaits with ⟨_, _, loading⟩ | ⟨_, idle⟩
  · obtain rfl := LimitsLoad.loading.inj (current.symm.trans loading)
    exact puts rfl
  · cases current.symm.trans idle

/-- At most one request for the limits is unanswered. -/
theorem awaitsLimits_unique {other : CallId}
    (reached : Reaches (Pipeline.turn settings) (start settings) past pipeline)
    (awaits : AwaitsLimits call past)
    (awaitsOther : AwaitsLimits other past) : call = other := by
  induction reached with
  | start => cases awaits
  | step earlier _ ih =>
      cases awaits with
      | now asked =>
          obtain ⟨_, asks⟩ := asked
          cases awaitsOther with
          | now askedOther =>
              obtain ⟨_, same, _⟩ := askedOther
              cases asks.1.symm.trans same
              rfl
          | later _ before => exact ((limits_asked_alone earlier asks).2 _ before).elim
      | later _ before =>
          cases awaitsOther with
          | now askedOther =>
              obtain ⟨_, asks⟩ := askedOther
              exact ((limits_asked_alone earlier asks).2 _ before).elim
          | later _ beforeOther => exact ih before beforeOther

/-- No turn changes limits that are known. -/
theorem limits_of_turn {turn : Turn} {limits : TopUpLimits}
    (reached : Reaches (Pipeline.turn settings) (start settings) past pipeline)
    (moved : pipeline.turn settings turn = some next)
    (known : pipeline.state.limits = some limits) : next.state.limits = some limits := by
  rcases step_of_turn moved with ⟨now, sink, rfl, running, step⟩ | step
  · cases step with
    | @performs duty rest head _ =>
        rw [state_perform]
        have before := (ready_of_anyOrder reached running).before head
        cases duty with
        | publish action =>
            cases action with
            | limitsLoaded other =>
                have unknown : pipeline.state.limits = none := before
                cases unknown.symm.trans known
            | amountEdited text =>
                simp only [published, ScreenState.next]
                split <;> exact known
            | _ => exact known
        | _ => exact known
    | _ => exact known
  · exact (background_of_backgroundStep step).state ▸ known

/-- **Limits that are known never change.** -/
theorem limits_kept {limits : TopUpLimits}
    (reached : Reaches (Pipeline.turn settings) (start settings) past pipeline)
    (member : moment ∈ past)
    (known : moment.before.state.limits = some limits) : pipeline.state.limits = some limits :=
  reached.keeps_of_mem member known fun _ _ _ _ => limits_of_turn

end Pipeline

end WalletTopUp
