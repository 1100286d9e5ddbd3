import WalletTopUp.Proofs.Pipeline.CatchUp

/-!
# The end of a pipeline

Once a pipeline has been told to stop it waits for nobody, tells nobody anything, and stops after at
most as many steps as it takes to handle what it took last (`Pipeline.exists_step_of_isDown`).  A
pipeline that has stopped has no work in flight, and none of its tasks asks or ends any more
(`Pipeline.isQuiet_of_reaches`).
-/

namespace WalletTopUp

namespace Pipeline

variable {settings : PipelineSettings} {pipeline next : Pipeline} {now : Instant}
  {sink later : Sink TaskName} {past : History} {turn : Turn}

/-! ## On the way to the end -/

/-- The most steps that a pipeline takes until it stops, once it has been told to. -/
def stopsWithin (pipeline : Pipeline) : Nat :=
  if pipeline.running then (pipeline.duties.map effort).sum + 1 else 0

/-- A pipeline that has been told to stop never waits: it drops what it has to tell, and it comes
closer to its end. -/
theorem exists_step_of_isDown (settings : PipelineSettings) (now : Instant)
    (running : pipeline.running = true)
    (down : sink.shutdown.isDown = true) :
    ∃ next later, pipeline.step settings now sink = some (next, later)
      ∧ next.stopsWithin < pipeline.stopsWithin ∧ later.accepted = sink.accepted := by
  cases duties : pipeline.duties with
  | nil =>
      refine ⟨pipeline.stop, sink, ?_, ?_, rfl⟩
      · simp only [step, running, duties, takeNext, down]
        rfl
      · have ended : pipeline.stop.stopsWithin = 0 := rfl
        rw [ended, stopsWithin, if_pos running]
        exact Nat.succ_pos _
  | cons duty rest =>
      by_cases loud : ∃ effect, duty = .emit effect
      · obtain ⟨effect, rfl⟩ := loud
        refine ⟨{ pipeline with duties := rest }, sink.forget .pipeline, ?_, ?_, rfl⟩
        · simp only [step, running, duties, sink.emit_of_isDown .pipeline effect down]
          rfl
        · have := effort_pos (.emit effect)
          simp only [stopsWithin, running, duties, List.map_cons, List.sum_cons, if_true]
          omega
      · have silent : ∀ effect, duty ≠ .emit effect := fun effect same => loud ⟨effect, same⟩
        have done := performed settings now pipeline duty rest
        refine ⟨({ pipeline with duties := rest } : Pipeline).perform settings now duty, sink,
          ?_, ?_, rfl⟩
        · simp only [step, running, duties]
          cases duty with
          | emit effect => exact (silent effect rfl).elim
          | _ => rfl
        · have less := effort_added pipeline.state silent
          rw [stopsWithin, stopsWithin, if_pos (done.running.trans running), if_pos running,
            done.duties, duties, List.map_append, List.sum_append, List.map_cons, List.sum_cons]
          omega

/-- What happens beside a pipeline's own task does not put off its end. -/
theorem stopsWithin_of_backgroundStep (step : BackgroundStep pipeline turn next) :
    next.stopsWithin = pipeline.stopsWithin ∧ next.state = pipeline.state := by
  cases step <;> exact ⟨rfl, rfl⟩

/-! ## After the end -/

/-- Nothing is in flight. -/
structure IsQuiet (pipeline : Pipeline) : Prop where
  conversions : pipeline.conversions.current = none
  bonuses : pipeline.bonuses.current = none
  limits : ∀ exchange, pipeline.limits ≠ .loading exchange

theorem isQuiet_stop (pipeline : Pipeline) : pipeline.stop.IsQuiet :=
  ⟨rfl, rfl, fun _ => nofun⟩

theorem IsQuiet.background (quiet : pipeline.IsQuiet) (step : BackgroundStep pipeline turn next) :
    next.IsQuiet := by
  cases step with
  | askConversion current _ | endConversion current _ => cases quiet.conversions.symm.trans current
  | askBonus current _ | endBonus current _ => cases quiet.bonuses.symm.trans current
  | askLimits current _ | endLimits current _ => exact (quiet.limits _ current).elim
  | hear =>
      refine ⟨?_, ?_, fun exchange loading => ?_⟩
      · simp only [hear, hearWork, quiet.conversions, Option.map_none]
      · simp only [hear, hearWork, quiet.bonuses, Option.map_none]
      · simp only [hear] at loading
        split at loading
        · next current => exact quiet.limits _ current
        · exact quiet.limits _ loading
  | send | close => exact { quiet with }

/-- A pipeline that has stopped has nothing in flight. -/
theorem isQuiet_of_reaches
    (reached : Reaches (Pipeline.turn settings) (start settings) past pipeline)
    (stopped : pipeline.running = false) : pipeline.IsQuiet := by
  induction reached with
  | start => cases stopped
  | @step past middle next turn _ moved ih =>
      rcases step_of_turn moved with ⟨_, _, _, running, step⟩ | step
      · cases step with
        | stops _ _ => exact isQuiet_stop middle
        | @performs duty rest _ _ =>
            rw [(performed settings _ middle duty rest).running, running] at stopped
            cases stopped
        | input _ _ | deadline _ _ | completion _ _ | waits _ _ | tells _ _ =>
            cases running.symm.trans stopped
      · refine (ih ?_).background step
        cases step <;> exact stopped

theorem IsQuiet.silent (quiet : pipeline.IsQuiet) (task : TaskName) :
    pipeline.ask? task = none ∧ pipeline.finish task = none := by
  cases task with
  | conversion => simp only [ask?, finish, finishConversion, quiet.conversions, and_self]
  | bonus => simp only [ask?, finish, finishBonus, quiet.bonuses, and_self]
  | limits =>
      have off := quiet.limits
      simp only [ask?, finish, finishLimits, and_self]
  | session | pipeline | setup | payment => exact ⟨rfl, rfl⟩

theorem IsQuiet.openCalls (quiet : pipeline.IsQuiet) : pipeline.openCalls = [] := by
  have off := quiet.limits
  simp only [Pipeline.openCalls, quiet.conversions, quiet.bonuses, List.append_nil]

end Pipeline

end WalletTopUp
