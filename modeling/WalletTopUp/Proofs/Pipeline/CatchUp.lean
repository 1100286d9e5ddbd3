import Mathlib.Algebra.GroupWithZero.Nat
import WalletTopUp.Proofs.Pipeline.Frame
import WalletTopUp.Proofs.Pipeline.Turn

/-!
# Catching up

A pipeline catches up when it handles what it has taken last and every input that is waiting, while
everything may happen but a new input (`Pipeline.CatchesUp`).  Handling a duty may lead to others,
but never to as much again, so a pipeline that has not been shut down can always catch up
(`Pipeline.exists_catchesUp`).
-/

namespace WalletTopUp

namespace Pipeline

variable {settings : PipelineSettings} {pipeline next due : Pipeline} {later : History}

/-- The pipeline after a turn as long as it has something left to do or an input to take: everything
may happen but a new input. -/
def catchUp (settings : PipelineSettings) (pipeline : Pipeline) : Turn → Option Pipeline
  | .send _ => none
  | turn =>
    if pipeline.duties.isEmpty && pipeline.inputs.isEmpty then none
    else pipeline.turn settings turn

/-- The second pipeline is the first one once it has handled every input that it had. -/
def CatchesUp (settings : PipelineSettings) (pipeline due : Pipeline) : Prop :=
  (∃ later, Reaches (catchUp settings) pipeline later due) ∧ due.IsCaughtUp

theorem isCaughtUp_iff :
    pipeline.IsCaughtUp ↔ (pipeline.duties.isEmpty && pipeline.inputs.isEmpty) = true := by
  rw [Bool.and_eq_true, List.isEmpty_iff, List.isEmpty_iff]
  rfl

theorem turn_of_catchUp {turn : Turn} (moved : pipeline.catchUp settings turn = some next) :
    pipeline.turn settings turn = some next ∧ ¬ pipeline.IsCaughtUp
      ∧ ∀ input, turn ≠ .send input := by
  unfold catchUp at moved
  split at moved
  · cases moved
  · next other =>
      split at moved
      · cases moved
      · next left => exact ⟨moved, fun caughtUp => left (isCaughtUp_iff.mp caughtUp), other⟩

/-- No input comes while a pipeline catches up. -/
theorem sent_of_catchUp
    (reached : Reaches (catchUp settings) pipeline later due) (past : History) :
    sent (later ++ past) = sent past := by
  induction reached with
  | start => rfl
  | @step later middle _ turn _ moved ih =>
      have silent : sent? ⟨middle, turn⟩ = none := by
        cases turn with
        | send input => exact ((turn_of_catchUp moved).2.2 input rfl).elim
        | _ => rfl
      rw [List.cons_append, sent_cons_none silent]
      exact ih

/-! ## Every duty ends -/

/-- The most steps that a duty takes, together with those of the duties that it leads to. -/
def effort : Duty → Nat
  | .announceSide | .announceAmounts | .announceSubmit => 2
  | .rearm => 3
  | .validate => 8
  | .validateWaiting => 9
  | .revalidate => 10
  | .settle _ => 12
  | .convert => 13
  | _ => 1

/-- The most steps that are left until the pipeline has caught up. -/
def effortLeft (pipeline : Pipeline) : Nat :=
  (pipeline.duties.map effort).sum
    + (pipeline.inputs.map fun input => ((inputDuties input).map effort).sum + 1).sum

theorem effort_pos (duty : Duty) : 0 < effort duty := by
  cases duty <;> exact Nat.succ_pos _

theorem effort_validationDuties (state : ScreenState) :
    ((validationDuties state).map effort).sum ≤ 7 := by
  unfold validationDuties
  split
  · exact (by decide : 1 ≤ 7)
  · exact (by decide : 0 ≤ 7)
  · split
    · exact (by decide : 4 ≤ 7)
    · exact (by decide : 7 ≤ 7)

/-- A duty takes more steps than those that it leads to. -/
theorem effort_added (state : ScreenState) {duty : Duty} (silent : ∀ effect, duty ≠ .emit effect) :
    ((added state duty).map effort).sum < effort duty := by
  cases duty with
  | emit effect => exact (silent effect rfl).elim
  | validate => exact Nat.lt_succ_of_le (effort_validationDuties state)
  | rearm | revalidate | validateWaiting =>
      simp only [added]
      split
      · decide
      · decide
  | convert =>
      simp only [added]
      split
      · exact Nat.lt_succ_self _
      · exact Nat.lt_succ_self _
      · split
        · exact Nat.succ_pos _
        · exact Nat.lt_succ_self _
  | settle derived => exact Nat.lt_succ_self _
  | _ => exact Nat.lt_succ_self _

/-- As long as there is a place for what it has to tell, a pipeline gets on. -/
theorem exists_catchUp (settings : PipelineSettings) (now : Instant)
    (running : pipeline.running = true)
    (busy : ¬ pipeline.IsCaughtUp) :
    ∃ next, pipeline.catchUp settings (.own now {}) = some next ∧ next.running = true
      ∧ next.effortLeft < pipeline.effortLeft := by
  have own : pipeline.catchUp settings (.own now {})
      = (pipeline.step settings now {}).map Prod.fst := by
    simp only [catchUp, mt isCaughtUp_iff.mpr busy, if_false, turn, Bool.false_eq_true]
  rw [own]
  cases duties : pipeline.duties with
  | nil =>
      cases waiting : pipeline.inputs with
      | nil => exact (busy ⟨duties, waiting⟩).elim
      | cons input rest =>
          refine ⟨{ pipeline with inputs := rest, duties := inputDuties input }, ?_, running, ?_⟩
          · simp only [step, running, duties, takeNext, waiting]
            rfl
          · simp only [effortLeft, duties, waiting, List.map_cons, List.map_nil, List.sum_cons,
              List.sum_nil]
            omega
  | cons duty rest =>
      by_cases loud : ∃ effect, duty = .emit effect
      · obtain ⟨effect, rfl⟩ := loud
        refine ⟨{ pipeline with duties := rest }, ?_, running, ?_⟩
        · simp only [step, running, duties]
          rfl
        · simp only [effortLeft, duties, List.map_cons, List.sum_cons]
          have := effort_pos (.emit effect)
          omega
      · have done := performed settings now pipeline duty rest
        have silent : ∀ effect, duty ≠ .emit effect := fun effect same => loud ⟨effect, same⟩
        refine ⟨_, ?_, done.running.trans running, ?_⟩
        · simp only [step, running, duties]
          cases duty with
          | emit effect => exact (silent effect rfl).elim
          | _ => rfl
        · have less := effort_added pipeline.state silent
          simp only [effortLeft, done.duties, done.inputs, duties, List.map_append, List.sum_append,
            List.map_cons, List.sum_cons]
          omega

/-- **A pipeline that has not been shut down can always catch up.** -/
theorem exists_catchesUp (settings : PipelineSettings) (running : pipeline.running = true) :
    ∃ due, CatchesUp settings pipeline due := by
  induction left : pipeline.effortLeft using Nat.strongRecOn generalizing pipeline with
  | ind left ih =>
      by_cases caughtUp : pipeline.IsCaughtUp
      · exact ⟨pipeline, ⟨[], .start⟩, caughtUp⟩
      · obtain ⟨next, moved, runs, less⟩ := exists_catchUp settings 0 running caughtUp
        obtain ⟨due, ⟨later, reached⟩, rest⟩ := ih _ (left ▸ less) runs rfl
        have first : Reaches (catchUp settings) pipeline [⟨pipeline, .own 0 {}⟩] next :=
          .step .start moved
        exact ⟨due, ⟨_, first.trans reached⟩, rest⟩

end Pipeline

end WalletTopUp
