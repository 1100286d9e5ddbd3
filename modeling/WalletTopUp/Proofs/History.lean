import Mathlib.Data.List.Induction

/-!
# Histories

A system that moves is followed together with everything that has happened to it.  A history keeps
each move with the state in which it was made, the latest first, so that a statement about a state
may speak of the moves that led to it (`Since`).  A system that is seen through a view has a history
of its own, which is read off the history of the whole (`Reaches.project`).
-/

namespace WalletTopUp

/-- A move and the state in which it was made. -/
structure Moment (σ ε : Type) where
  before : σ
  event : ε

/-- The states that a system reaches, each with the history of the moves that led to it. -/
inductive Reaches {σ ε : Type} (next : σ → ε → Option σ) (start : σ) :
    List (Moment σ ε) → σ → Prop where
  | start : Reaches next start [] start
  | step {past : List (Moment σ ε)} {state result : σ} {event : ε}
      (earlier : Reaches next start past state)
      (moved : next state event = some result) :
      Reaches next start (⟨state, event⟩ :: past) result

/-- Something happened, and every later moment kept to a condition.  What happened may speak of the
history before it. -/
inductive Since {μ : Type} (keeps : μ → Prop) (origin : μ → List μ → Prop) : List μ → Prop where
  | now {moment : μ} {past : List μ} (happened : origin moment past) :
      Since keeps origin (moment :: past)
  | later {moment : μ} {past : List μ} (kept : keeps moment) (before : Since keeps origin past) :
      Since keeps origin (moment :: past)

/-- Something was issued and has been renewed since. -/
def Overtaken {μ : Type} (issues renews : μ → Prop) (past : List μ) : Prop :=
  Since (fun _ => True) (fun moment before =>
    renews moment ∧ Since (fun _ => True) (fun moment _ => issues moment) before) past

namespace Since

variable {μ : Type} {keeps keeps' : μ → Prop} {origin origin' : μ → List μ → Prop}

theorem mono {past : List μ} (since : Since keeps origin past)
    (kept : ∀ moment, keeps moment → keeps' moment)
    (happened : ∀ moment before, origin moment before → origin' moment before) :
    Since keeps' origin' past := by
  induction since with
  | now happened' => exact .now (happened _ _ happened')
  | later kept' _ ih => exact .later (kept _ kept') ih

/-- What happened, happened at some moment. -/
theorem exists_suffix {past : List μ} (since : Since keeps origin past) :
    ∃ moment before, moment :: before <:+ past ∧ origin moment before := by
  induction since with
  | now happened => exact ⟨_, _, List.suffix_refl _, happened⟩
  | later _ _ ih =>
      obtain ⟨moment, before, suffix, happened⟩ := ih
      exact ⟨moment, before, suffix.trans (List.suffix_cons _ _), happened⟩

/-- What happened is not undone by more moments that keep to the condition. -/
theorem append {later past : List μ} (kept : ∀ moment ∈ later, keeps moment)
    (since : Since keeps origin past) : Since keeps origin (later ++ past) := by
  induction later with
  | nil => exact since
  | cons moment later ih =>
      obtain ⟨keptFirst, keptRest⟩ := List.forall_mem_cons.mp kept
      exact .later keptFirst (ih keptRest)

/-- What happened stays so, as long as nothing has to be kept since. -/
theorem extend {past all : List μ} (since : Since (fun _ => True) origin past)
    (suffix : past <:+ all) : Since (fun _ => True) origin all := by
  obtain ⟨later, rfl⟩ := suffix
  exact since.append fun _ _ => trivial

end Since

/-- What is read off a history in the order in which it happened, with one more moment. -/
theorem reverse_filterMap_cons {μ β : Type} (see : μ → Option β) (moment : μ) (past : List μ) :
    ((moment :: past).filterMap see).reverse
      = (past.filterMap see).reverse ++ (see moment).toList := by
  cases seen : see moment <;> simp [seen]

namespace Reaches

variable {σ τ ε δ : Type} {next : σ → ε → Option σ} {start middle state : σ}
  {past later : List (Moment σ ε)}

/-- What goes on from a reached state is reached from the start. -/
theorem trans (earlier : Reaches next start past middle) (after : Reaches next middle later state) :
    Reaches next start (later ++ past) state := by
  induction after with
  | start => exact earlier
  | step _ moved ih => exact .step ih moved

/-- What is reached by some of the moves is reached by all of them, in the same way. -/
theorem mono {next' : σ → ε → Option σ} (reached : Reaches next start past state)
    (more : ∀ state event result, next state event = some result →
      next' state event = some result) : Reaches next' start past state := by
  induction reached with
  | start => exact .start
  | step _ moved ih => exact .step ih (more _ _ _ moved)

/-- Every moment of a history was reached by what came before it. -/
theorem exists_of_mem {moment : Moment σ ε} (reached : Reaches next start past state)
    (member : moment ∈ past) :
    ∃ earlier after, moment :: earlier <:+ past ∧ Reaches next start earlier moment.before
      ∧ next moment.before moment.event = some after := by
  induction reached with
  | start => cases member
  | step reached moved ih =>
      rcases List.mem_cons.mp member with rfl | member
      · exact ⟨_, _, List.suffix_refl _, reached, moved⟩
      · obtain ⟨earlier, after, suffix, reachedEarlier, movedThen⟩ := ih member
        exact ⟨earlier, after, suffix.trans (List.suffix_cons _ _), reachedEarlier, movedThen⟩

/-- Whatever a history ends with was reached by the moves before it. -/
theorem of_suffix {moment : Moment σ ε} {earlier : List (Moment σ ε)}
    (reached : Reaches next start past state)
    (suffix : moment :: earlier <:+ past) : Reaches next start earlier moment.before := by
  induction reached with
  | start => cases List.eq_nil_of_suffix_nil suffix
  | step before _ ih =>
      rcases List.suffix_cons_iff.mp suffix with same | later
      · obtain ⟨rfl, rfl⟩ := List.cons.inj same
        exact before
      · exact ih later

/-- What happened, happened in a state that was reached. -/
theorem since {keeps : Moment σ ε → Prop}
    {origin origin' : Moment σ ε → List (Moment σ ε) → Prop}
    (reached : Reaches next start past state)
    (since : Since keeps origin past)
    (more : ∀ earlier state event, Reaches next start earlier state →
      origin ⟨state, event⟩ earlier → origin' ⟨state, event⟩ earlier) :
    Since keeps origin' past := by
  induction reached with
  | start => cases since
  | step earlier _ ih =>
      cases since with
      | now happened => exact .now (more _ _ _ earlier happened)
      | later kept before => exact .later kept (ih before)

/-- What every move keeps holds from the moment on in which it held. -/
theorem keeps_of_mem {holds : σ → Prop} {moment : Moment σ ε}
    (reached : Reaches next start past state)
    (member : moment ∈ past)
    (held : holds moment.before)
    (kept : ∀ earlier state event result, Reaches next start earlier state →
      next state event = some result → holds state → holds result) : holds state := by
  induction reached with
  | start => cases member
  | step earlier moved ih =>
      rcases List.mem_cons.mp member with rfl | member
      · exact kept _ _ _ _ earlier moved held
      · exact kept _ _ _ _ earlier moved (ih member)

/-- A measure that never falls is at least what it was when something happened. -/
theorem le_of_since {measure : σ → Nat} {bound : Nat} {keeps : Moment σ ε → Prop}
    {origin : Moment σ ε → List (Moment σ ε) → Prop}
    (reached : Reaches next start past state)
    (since : Since keeps origin past)
    (grows : ∀ state event result, next state event = some result →
      measure state ≤ measure result)
    (happened : ∀ earlier state event result, Reaches next start earlier state →
      next state event = some result → origin ⟨state, event⟩ earlier → bound ≤ measure result) :
    bound ≤ measure state := by
  induction reached with
  | start => cases since
  | step earlier moved ih =>
      cases since with
      | now origin => exact happened _ _ _ _ earlier moved origin
      | later _ before => exact Nat.le_trans (ih before) (grows _ _ _ moved)

/-- What was issued at the height of a measure is below it once it has been renewed. -/
theorem lt_of_overtaken {measure : σ → Nat} {number : Nat} {issues renews : Moment σ ε → Prop}
    (reached : Reaches next start past state)
    (overtaken : Overtaken issues renews past)
    (grows : ∀ state event result, next state event = some result →
      measure state ≤ measure result)
    (issued : ∀ state event result, next state event = some result → issues ⟨state, event⟩ →
      number ≤ measure result)
    (renewed : ∀ state event result, next state event = some result → renews ⟨state, event⟩ →
      measure state < measure result) : number < measure state := by
  refine reached.le_of_since overtaken grows fun earlier middle event result before moved both => ?_
  have height : number ≤ measure middle :=
    before.le_of_since both.2 grows fun _ _ _ _ _ moved happened => issued _ _ _ moved happened
  exact Nat.lt_of_le_of_lt height (renewed _ _ _ moved both.1)

/-- Making moves one after another reaches the last state, and the moves are its history. -/
theorem of_foldlM {events : List ε} (ran : events.foldlM next start = some state) :
    ∃ past, Reaches next start past state ∧ past.map Moment.event = events.reverse := by
  induction events using List.reverseRecOn generalizing state with
  | nil =>
      obtain rfl : start = state := Option.some.inj ran
      exact ⟨[], .start, rfl⟩
  | append_singleton events event ih =>
      rw [List.foldlM_append] at ran
      obtain ⟨middle, ranEarlier, moved⟩ := Option.bind_eq_some_iff.mp ran
      obtain ⟨past, reached, named⟩ := ih ranEarlier
      have moved : next middle event = some state := by simpa using moved
      refine ⟨⟨middle, event⟩ :: past, .step reached moved, ?_⟩
      rw [List.map_cons, named, List.reverse_append, List.reverse_singleton, List.singleton_append]

/-- Make moves one after another and keep the history. -/
def follow (next : σ → ε → Option σ) (start : σ) (events : List ε) :
    Option (List (Moment σ ε) × σ) :=
  events.foldlM (fun (past, state) event =>
    (next state event).map fun result => (⟨state, event⟩ :: past, result)) ([], start)

theorem of_follow {events : List ε} (followed : follow next start events = some (past, state)) :
    Reaches next start past state := by
  induction events using List.reverseRecOn generalizing past state with
  | nil =>
      cases followed
      exact .start
  | append_singleton events event ih =>
      rw [follow, List.foldlM_append] at followed
      obtain ⟨⟨earlier, middle⟩, followedEarlier, last⟩ := Option.bind_eq_some_iff.mp followed
      have last : ((next middle event).map fun result =>
          (Moment.mk middle event :: earlier, result)) = some (past, state) := by simpa using last
      obtain ⟨_, moved, same⟩ := Option.map_eq_some_iff.mp last
      cases same
      exact .step (ih followedEarlier) moved

/-- A system seen through a view: moves that the view shows are moves of the viewed system, and all
others leave the view as it is. -/
theorem project {next' : τ → δ → Option τ} (view : σ → τ) (label : σ → ε → Option δ)
    (shown : ∀ state event result action, next state event = some result →
      label state event = some action → next' (view state) action = some (view result))
    (hidden : ∀ state event result, next state event = some result →
      label state event = none → view result = view state)
    (reached : Reaches next start past state) :
    Reaches next' (view start)
      (past.filterMap fun moment =>
        (label moment.before moment.event).map (Moment.mk (view moment.before)))
      (view state) := by
  induction reached with
  | start => exact .start
  | @step past middle result event _ moved ih =>
      cases labelled : label middle event with
      | none =>
          simp only [List.filterMap_cons, labelled, Option.map_none]
          rw [hidden middle event result moved labelled]
          exact ih
      | some action =>
          simp only [List.filterMap_cons, labelled, Option.map_some]
          exact .step ih (shown middle event result action moved labelled)

end Reaches

end WalletTopUp
