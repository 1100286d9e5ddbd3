import WalletTopUp.Proofs.Pipeline.Frame
import WalletTopUp.Proofs.Pipeline.Handlers

/-!
# Inputs in order

A pipeline takes its inputs in the order in which they come.  What it knows of payment methods and
currencies comes from the inputs it has taken (`Pipeline.Received`).  As long as methods are set up
once and before one of them is selected, no method is selected yet when the setup is taken, so the
agreement of the pipeline holds with everything that rests on that order
(`Pipeline.ready_of_inOrder`).
-/

namespace WalletTopUp

/-- The methods are set up at most once, and none is selected before that. -/
def AmountInput.InOrder (inputs : List AmountInput) : Prop :=
  inputs.Pairwise fun earlier later => ∀ methods currency, later = .setup methods currency →
    (∀ methods currency, earlier ≠ .setup methods currency)
      ∧ ∀ method, earlier ≠ .selectMethod method

/-- There is only one setup. -/
theorem AmountInput.InOrder.setup_unique {inputs : List AmountInput}
    {methods methods' : List PaymentMethod} {currency currency' : LocalCurrency}
    (inOrder : InOrder inputs)
    (member : .setup methods currency ∈ inputs)
    (member' : .setup methods' currency' ∈ inputs) :
    currency = currency' := by
  induction inputs with
  | nil => cases member
  | cons input inputs ih =>
      obtain ⟨head, tail⟩ := List.pairwise_cons.mp inOrder
      rcases List.mem_cons.mp member with first | later
      · rcases List.mem_cons.mp member' with first' | later'
        · exact (AmountInput.setup.inj (first.trans first'.symm)).2
        · exact ((head _ later' _ _ rfl).1 _ _ first.symm).elim
      · rcases List.mem_cons.mp member' with first' | later'
        · exact ((head _ later _ _ rfl).1 _ _ first'.symm).elim
        · exact ih tail later later'

namespace Pipeline

variable {settings : PipelineSettings} {pipeline next : Pipeline} {past : History}

/-- What a pipeline knows of methods and currencies comes from the inputs it has taken. -/
structure Received (taken : List AmountInput) (pipeline : Pipeline) : Prop where
  settingUp : ∀ methods currency, .publish (.setupLoaded methods currency) ∈ pipeline.duties →
    .setup methods currency ∈ taken
  selecting : ∀ method, .publish (.methodSelected method) ∈ pipeline.duties →
    .selectMethod method ∈ taken
  selected : ∀ method, pipeline.state.selectedMethod = some method → .selectMethod method ∈ taken
  setUp : AmountInput.InOrder taken → ∀ methods currency, .setup methods currency ∈ taken →
    pipeline.duties = inputDuties (.setup methods currency)
      ∨ pipeline.state.entry.currency = currency

theorem received_start : Received [] (start settings) where
  settingUp _ _ member := by cases member
  selecting _ member := by cases member
  selected _ same := by cases same
  setUp _ _ _ member := by cases member

/-- Taking an input. -/
theorem Received.input {taken rest : List AmountInput} {input : AmountInput}
    (received : Received taken pipeline)
    (free : pipeline.duties = []) :
    Received (taken ++ [input])
      { pipeline with inputs := rest, duties := inputDuties input } where
  settingUp methods currency member := by
    rcases input_of_publish member with ⟨_, _, rfl, same⟩ | ⟨_, _, same⟩ | ⟨_, same⟩ | ⟨_, _, same⟩
      <;> cases same
    exact List.mem_append_right _ (List.mem_singleton.mpr rfl)
  selecting method member := by
    rcases input_of_publish member with ⟨_, _, _, same⟩ | ⟨_, _, same⟩ | ⟨_, same⟩ | ⟨_, rfl, same⟩
      <;> cases same
    exact List.mem_append_right _ (List.mem_singleton.mpr rfl)
  selected method same := List.mem_append_left _ (received.selected method same)
  setUp inOrder methods currency member := by
    obtain ⟨before, _, _⟩ := List.pairwise_append.mp inOrder
    rcases List.mem_append.mp member with earlier | own
    · rcases received.setUp before methods currency earlier with pending | arrived
      · rw [free] at pending
        cases pending
      · exact .inr arrived
    · cases List.mem_singleton.mp own
      exact .inl rfl

theorem not_settingUp_of_free (free : pipeline.duties = []) (methods : List PaymentMethod)
    (currency : LocalCurrency)
    (pending : pipeline.duties = inputDuties (.setup methods currency)) :
    next.duties = pipeline.duties := by
  cases free.symm.trans pending

/-- A step that changes no state and neither adds nor drops a duty that an input asked for. -/
theorem Received.of_state {taken : List AmountInput}
    (received : Received taken pipeline)
    (state : next.state = pipeline.state)
    (setups : ∀ methods currency, .publish (.setupLoaded methods currency) ∈ next.duties →
      .publish (.setupLoaded methods currency) ∈ pipeline.duties)
    (selections : ∀ method, .publish (.methodSelected method) ∈ next.duties →
      .publish (.methodSelected method) ∈ pipeline.duties)
    (kept : ∀ methods currency, pipeline.duties = inputDuties (.setup methods currency) →
      next.duties = pipeline.duties) : Received taken next where
  settingUp methods currency member := received.settingUp methods currency (setups _ _ member)
  selecting method member := received.selecting method (selections _ member)
  selected method selected := received.selected method (state ▸ selected)
  setUp inOrder methods currency member := by
    rcases received.setUp inOrder methods currency member with pending | arrived
    · exact .inl ((kept _ _ pending).trans pending)
    · exact .inr (state ▸ arrived)

/-- Doing a duty. -/
theorem Received.performs {taken : List AmountInput} {duty : Duty} {rest : List Duty}
    (received : Received taken pipeline)
    (head : pipeline.duties = duty :: rest)
    (state : next.state = published pipeline.state duty)
    (duties : next.duties = added pipeline.state duty ++ rest) : Received taken next where
  settingUp methods currency member := by
    rw [duties] at member
    rcases List.mem_append.mp member with new | left
    · rcases publish_mem_added new with ⟨_, _, same⟩ | ⟨_, same⟩ | same <;> cases same
    · exact received.settingUp _ _ (head ▸ List.mem_cons_of_mem _ left)
  selecting method member := by
    rw [duties] at member
    rcases List.mem_append.mp member with new | left
    · rcases publish_mem_added new with ⟨_, _, same⟩ | ⟨_, same⟩ | same <;> cases same
    · exact received.selecting _ (head ▸ List.mem_cons_of_mem _ left)
  selected method same := by
    rw [state] at same
    cases duty with
    | publish action =>
        rcases ScreenState.selectedMethod_next same with rfl | earlier
        · exact received.selecting _ (head ▸ List.mem_cons_self)
        · exact received.selected _ earlier
    | _ => exact received.selected _ same
  setUp inOrder methods currency member := by
    rw [state, duties]
    rcases received.setUp inOrder methods currency member with pending | arrived
    · obtain ⟨rfl, _⟩ := List.cons.inj (head.symm.trans pending)
      exact .inr rfl
    · refine .inr ?_
      by_cases setup : ∃ methods currency, duty = .publish (.setupLoaded methods currency)
      · obtain ⟨methods', currency', rfl⟩ := setup
        exact inOrder.setup_unique
          (received.settingUp methods' currency' (head ▸ List.mem_cons_self)) member
      · cases duty with
        | publish action =>
            refine (ScreenState.currency_next action fun methods currency same => ?_).trans arrived
            exact setup ⟨methods, currency, congrArg _ same⟩
        | _ => exact arrived

theorem Received.ownStep {taken : List AmountInput} {now : Instant} {sink : Sink TaskName}
    (received : Received taken pipeline)
    (step : OwnStep settings now sink pipeline next) :
    ∃ takenNext, Received takenNext next ∧ takenNext ++ next.inputs = taken ++ pipeline.inputs := by
  cases step with
  | stops _ _ =>
      exact ⟨taken, received.of_state rfl (fun _ _ => id) (fun _ => id) fun _ _ _ => rfl, rfl⟩
  | @input input rest free waiting =>
      refine ⟨taken ++ [input], received.input free, ?_⟩
      rw [waiting, List.append_assoc, List.singleton_append]
  | deadline caughtUp _ =>
      refine ⟨taken, received.of_state rfl (fun _ _ member => ?_) (fun _ member => ?_)
        (not_settingUp_of_free caughtUp.1), rfl⟩
      · cases List.mem_singleton.mp member
      · cases List.mem_singleton.mp member
  | @completion completion rest caughtUp _ =>
      have added : ∀ action, .publish action ∈ pipeline.completionDuties completion →
          (∀ methods currency, action ≠ .setupLoaded methods currency)
            ∧ ∀ method, action ≠ .methodSelected method := by
        intro action member
        rcases publish_mem_completionDuties member with ⟨_, _, rfl⟩ | ⟨_, _, _, _, rfl⟩ <;>
          exact ⟨by simp, by simp⟩
      refine ⟨taken, received.of_state rfl (fun _ _ member => ?_) (fun _ member => ?_)
        (not_settingUp_of_free caughtUp.1), rfl⟩
      · exact ((added _ member).1 _ _ rfl).elim
      · exact ((added _ member).2 _ rfl).elim
  | waits _ _ => exact ⟨taken, received, rfl⟩
  | tells head _ =>
      refine ⟨taken, received.of_state rfl (fun _ _ member => ?_) (fun _ member => ?_)
        (fun _ _ pending => ?_), rfl⟩
      · exact head ▸ List.mem_cons_of_mem _ member
      · exact head ▸ List.mem_cons_of_mem _ member
      · cases head.symm.trans pending
  | performs head _ =>
      refine ⟨taken, received.performs head (state_perform _ _) (duties_perform _ _), ?_⟩
      rw [(perform_frame _ _).1]

/-- **A pipeline takes its inputs in order**, and what it knows comes from those it has taken. -/
theorem received_of_reaches
    (reached : Reaches (Pipeline.turn settings) (start settings) past pipeline) :
    ∃ taken, Received taken pipeline ∧ sent past = taken ++ pipeline.inputs := by
  induction reached with
  | start => exact ⟨[], received_start, rfl⟩
  | @step past middle next turn _ moved ih =>
      obtain ⟨taken, received, same⟩ := ih
      rcases step_of_turn moved with ⟨now, sink, rfl, _, step⟩ | step
      · obtain ⟨takenNext, receivedNext, kept⟩ := received.ownStep step
        exact ⟨takenNext, receivedNext, same.trans kept.symm⟩
      · have background := background_of_backgroundStep step
        refine ⟨taken, received.of_state background.state (fun _ _ member => ?_)
          (fun _ member => ?_) (fun _ _ _ => background.duties), ?_⟩
        · exact background.duties ▸ member
        · exact background.duties ▸ member
        · cases step with
          | send =>
              simp only [sent, List.filterMap_cons, sent?, List.reverse_cons] at same ⊢
              rw [same, List.append_assoc]
              rfl
          | _ => exact same

/-! ## Inputs in order -/

theorem sent_initial {earlier : History} (suffix : earlier <:+ past) : sent earlier <+: sent past :=
  List.reverse_prefix.mpr (suffix.filterMap sent?)

/-- In order, no method is selected when the methods are set up. -/
theorem admitsAll_of_inOrder
    (reached : Reaches (Pipeline.turn settings) (start settings) past pipeline)
    (inOrder : AmountInput.InOrder (sent past)) : (agreement True).AdmitsAll past := by
  intro moment member input rest _ waiting
  cases input with
  | setup methods currency =>
      intro _
      obtain ⟨earlier, _, suffix, reachedEarlier, _⟩ := reached.exists_of_mem member
      obtain ⟨taken, received, same⟩ := received_of_reaches reachedEarlier
      have inOrderEarlier : AmountInput.InOrder (sent earlier) :=
        inOrder.sublist (sent_initial ((List.suffix_cons _ _).trans suffix)).sublist
      rw [same, waiting] at inOrderEarlier
      obtain ⟨_, _, across⟩ := List.pairwise_append.mp inOrderEarlier
      by_contra selected
      obtain ⟨method, selected⟩ := Option.ne_none_iff_exists'.mp selected
      have before := received.selected method selected
      exact (across _ before _ List.mem_cons_self _ _ rfl).2 method rfl
  | edit _ | switchCurrency | selectMethod _ => trivial

/-- **The agreement holds at every moment of every run whose inputs come in order.** -/
theorem ready_of_inOrder
    (reached : Reaches (Pipeline.turn settings) (start settings) past pipeline)
    (inOrder : AmountInput.InOrder (sent past))
    (running : pipeline.running = true) :
    (agreement True).Ready settings (told past) pipeline :=
  agreement_kept.ready_of_reaches reached (admitsAll_of_inOrder reached inOrder) running

/-- What does not rest on the order of the inputs holds at every moment of every run. -/
theorem ready_of_anyOrder
    (reached : Reaches (Pipeline.turn settings) (start settings) past pipeline)
    (running : pipeline.running = true) :
    (agreement False).Ready settings (told past) pipeline := by
  refine agreement_kept.ready_of_reaches reached (fun _ _ input _ _ _ => ?_) running
  cases input with
  | setup methods currency => exact False.elim
  | edit _ | switchCurrency | selectMethod _ => trivial

end Pipeline

end WalletTopUp
