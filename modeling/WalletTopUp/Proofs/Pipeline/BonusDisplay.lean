import WalletTopUp.Proofs.Pipeline.Supersession

/-!
# The bonus on display

A forecast and an amount outside the limits change the bonus of the state and the bonus on display
together.  An accepted edit drops the bonus of the state only, and nothing is told about a bonus
until one is forecast again or the amount fails the check.  A bonus that an edit has left on display
is `Stale` until then, and that is the only way in which the display departs from the state
(`PipelineRun.display_truthful_iff`).  An amount that is cleared, or whose conversion fails, is
never checked again, so the bonus of the amount before it stays on display.
-/

namespace WalletTopUp

/-- Whether an effect changes the bonus on display. -/
def Effect.isBonus : Effect → Bool
  | showBonus _ _ | hideBonus => true
  | _ => false

/-- What a bonus looks like on display. -/
def BonusForecast.onDisplay (bonus : Option BonusForecast) : Option (Decimal × String) :=
  (bonus.filter isVisible).map fun bonus => (bonus.amount, bonus.currency)

namespace Pipeline

variable {settings : PipelineSettings} {pipeline next : Pipeline} {past : History}

/-- The bonus on display once these effects have been told, the latest first. -/
def displayed : List Effect → Option (Decimal × String)
  | [] => none
  | .showBonus amount currency :: _ => some (amount, currency)
  | .hideBonus :: _ => none
  | _ :: earlier => displayed earlier

/-- Other effects leave the bonus on display. -/
theorem displayed_cons_of_not_isBonus {effect : Effect} (other : effect.isBonus = false)
    (earlier : List Effect) : displayed (effect :: earlier) = displayed earlier := by
  cases effect with
  | showBonus _ _ | hideBonus => cases other
  | _ => rfl

/-- What is told of a forecast changes the display. -/
theorem isBonus_bonusEffect (bonus : Option BonusForecast) :
    (bonusEffect bonus).isBonus = true := by
  cases bonus with
  | none => rfl
  | some bonus =>
      simp only [bonusEffect]
      split <;> rfl

/-- A forecast that is told is on display, unless it is not to be seen. -/
theorem displayed_bonusEffect (bonus : Option BonusForecast) (earlier : List Effect) :
    displayed (bonusEffect bonus :: earlier) = BonusForecast.onDisplay bonus := by
  cases bonus with
  | none => rfl
  | some bonus =>
      cases visible : bonus.isVisible <;>
        simp [bonusEffect, displayed, BonusForecast.onDisplay, Option.filter, visible]

/-- At this moment the presentation layer is told about a bonus. -/
def TellsBonus (moment : Moment Pipeline Turn) : Prop :=
  ∃ effect, told? moment = some effect ∧ effect.isBonus = true

/-- A bonus was on display when an edit was taken over, and nothing has been told about a bonus
since. -/
def Stale (past : History) : Prop :=
  Since (fun moment => ¬ TellsBonus moment) (fun moment before =>
    (∃ text, Does (.publish (.amountEdited text)) moment) ∧ displayed (told before) ≠ none) past

/-! ## Duties come in pairs -/

/-- Whether a duty changes the bonus of the state or the one on display without regard to what they
are. -/
def setsBonus : Duty → Bool
  | .publish (.bonusUpdated _) => true
  | .emit effect => effect.isBonus
  | _ => false

/-- What is left to do changes the bonus of the state and the one on display together. -/
inductive Paired : List Duty → Prop where
  | nil : Paired []
  | other {duty : Duty} {rest : List Duty}
      (silent : setsBonus duty = false)
      (paired : Paired rest) :
      Paired (duty :: rest)
  | forecast {bonus : Option BonusForecast} {rest : List Duty}
      (paired : Paired rest) :
      Paired (.emit (bonusEffect bonus) :: .publish (.bonusUpdated bonus) :: rest)
  | withdrawn {rest : List Duty}
      (paired : Paired rest) :
      Paired (.publish (.bonusUpdated none) :: .emit .hideBonus :: rest)

/-- Pairs stay pairs when more pairs follow. -/
theorem Paired.append {first rest : List Duty} (paired : Paired first) (others : Paired rest) :
    Paired (first ++ rest) := by
  induction paired with
  | nil => exact others
  | other silent _ ih => exact .other silent ih
  | forecast _ ih => exact .forecast ih
  | withdrawn _ ih => exact .withdrawn ih

/-- Duties that set no bonus are paired. -/
theorem paired_of_silent {duties : List Duty} (silent : ∀ duty ∈ duties, setsBonus duty = false) :
    Paired duties := by
  induction duties with
  | nil => exact .nil
  | cons duty rest ih =>
      obtain ⟨first, others⟩ := List.forall_mem_cons.mp silent
      exact .other first (ih others)

/-- What an input asks for sets no bonus, so it is paired. -/
theorem paired_inputDuties (input : AmountInput) : Paired (inputDuties input) := by
  refine paired_of_silent ?_
  cases input with
  | setup _ _ | switchCurrency | selectMethod _ => simp [inputDuties, setsBonus]
  | edit text =>
      simp only [inputDuties]
      split <;> simp [setsBonus, Effect.isBonus]

/-- What a finished request asks for comes in pairs: a forecast is told and published. -/
theorem paired_completionDuties (completion : Completion) :
    Paired (pipeline.completionDuties completion) := by
  cases completion with
  | converted ticket derived =>
      simp only [completionDuties]
      split <;> exact paired_of_silent (by simp [setsBonus])
  | limitsLoaded limits =>
      cases limits <;> exact paired_of_silent (by simp [completionDuties, setsBonus])
  | bonusLoaded ticket bonus =>
      simp only [completionDuties]
      split
      · exact .forecast (.other rfl .nil)
      · exact .nil

/-- A warning about the limits leaves the bonus alone. -/
theorem isBonus_boundsEffect (bounds : Bounds) (limits : EffectiveLimits) :
    (boundsEffect bounds limits).isBonus = false := by
  unfold boundsEffect
  split
  · rfl
  · split <;> rfl

/-- A check comes in pairs: where it withdraws the bonus it does so in both places. -/
theorem paired_validationDuties (state : ScreenState) : Paired (validationDuties state) := by
  simp only [validationDuties]
  split
  · exact .other rfl .nil
  · exact .nil
  · refine .other rfl (.other (isBonus_boundsEffect _ _) ?_)
    split
    · exact .other rfl (.other rfl .nil)
    · exact .other rfl (.withdrawn (.other rfl (.other rfl .nil)))

/-- What a duty adds comes in pairs, but for an effect that has to wait. -/
theorem paired_added (state : ScreenState) {duty : Duty} (silent : ∀ effect, duty ≠ .emit effect) :
    Paired (added state duty) := by
  cases duty with
  | emit effect => exact (silent effect rfl).elim
  | validate => exact paired_validationDuties state
  | announceSide | announceAmounts | announceSubmit => exact .other rfl .nil
  | settle _ => exact .other rfl (.other rfl (.other rfl .nil))
  | rearm | revalidate | validateWaiting =>
      simp only [added]
      split <;> exact paired_of_silent (by simp [setsBonus])
  | convert =>
      simp only [added]
      split
      · exact .other rfl .nil
      · exact .other rfl .nil
      · split <;> exact paired_of_silent (by simp [setsBonus])
  | publish _ | cancelConversion | cancelBonus | arm | forecast | loadLimits => exact .nil

/-! ## The display and the state -/

/-- The display shows the bonus of the state, unless an edit has left another one there. -/
structure Shows (past : History) (bonus : Option BonusForecast) : Prop where
  fresh : ¬ Stale past → displayed (told past) = BonusForecast.onDisplay bonus
  stale : Stale past → displayed (told past) ≠ none ∧ bonus = none

/-- How the display and the state go with what is left to do. -/
inductive Displaying (past : History) (pipeline : Pipeline) : Prop where
  | both
      (paired : Paired pipeline.duties)
      (shows : Shows past pipeline.state.bonus)
  /-- A forecast has been told and is about to be published. -/
  | told {bonus : Option BonusForecast} {rest : List Duty}
      (left : pipeline.duties = .publish (.bonusUpdated bonus) :: rest)
      (paired : Paired rest)
      (shows : Shows past bonus)
  /-- The bonus of the state has been withdrawn, and the one on display is about to be. -/
  | withdrawn {rest : List Duty}
      (left : pipeline.duties = .emit .hideBonus :: rest)
      (paired : Paired rest)
      (none : pipeline.state.bonus = none)

/-- With nothing left to do the display shows the bonus of the state. -/
theorem Displaying.shows (displaying : Displaying past pipeline) (free : pipeline.duties = []) :
    Shows past pipeline.state.bonus := by
  cases displaying with
  | both _ shows => exact shows
  | told left _ _ | withdrawn left _ _ => cases free.symm.trans left

/-- A moment makes the display stale if it takes over an edit while a bonus is on display, and it
keeps it stale if nothing is told about a bonus. -/
theorem stale_cons {moment : Moment Pipeline Turn} :
    Stale (moment :: past) ↔
      ((∃ text, Does (.publish (.amountEdited text)) moment) ∧ displayed (told past) ≠ none)
        ∨ (¬ TellsBonus moment ∧ Stale past) := by
  constructor
  · rintro (⟨happened⟩ | ⟨kept, before⟩)
    · exact .inl happened
    · exact .inr ⟨kept, before⟩
  · rintro (happened | ⟨kept, before⟩)
    · exact .now happened
    · exact .later kept before

/-- At this moment nothing is told about a bonus and no edit is taken over. -/
structure LeavesDisplay (moment : Moment Pipeline Turn) : Prop where
  told : ∀ effect, told? moment = some effect → effect.isBonus = false
  edits : ∀ text, ¬ Does (.publish (.amountEdited text)) moment

/-- A moment that tells nothing about a bonus leaves the one on display. -/
theorem displayed_told_cons {moment : Moment Pipeline Turn}
    (other : ∀ effect, told? moment = some effect → effect.isBonus = false) :
    displayed (told (moment :: past)) = displayed (told past) := by
  cases tells : told? moment with
  | none => rw [told_cons_none tells]
  | some effect =>
      rw [told, List.filterMap_cons_some tells]
      exact displayed_cons_of_not_isBonus (other effect tells) _

/-- A moment that leaves the display alone leaves it as stale as it was. -/
theorem LeavesDisplay.stale_iff {moment : Moment Pipeline Turn} (quiet : LeavesDisplay moment) :
    Stale (moment :: past) ↔ Stale past := by
  rw [stale_cons]
  constructor
  · rintro (⟨⟨text, edits⟩, _⟩ | ⟨_, stale⟩)
    · exact (quiet.edits text edits).elim
    · exact stale
  · intro stale
    refine .inr ⟨?_, stale⟩
    rintro ⟨effect, tells, bonus⟩
    exact Bool.noConfusion ((quiet.told effect tells).symm.trans bonus)

/-- What the display shows, it goes on showing when it is left alone. -/
theorem Shows.quiet {moment : Moment Pipeline Turn} {bonus : Option BonusForecast}
    (shows : Shows past bonus) (quiet : LeavesDisplay moment) : Shows (moment :: past) bonus := by
  have same : displayed (told (moment :: past)) = displayed (told past) :=
    displayed_told_cons quiet.told
  exact ⟨fun fresh => same.trans (shows.fresh fun stale => fresh (quiet.stale_iff.mpr stale)),
    fun stale => same.symm ▸ shows.stale (quiet.stale_iff.mp stale)⟩

/-- Where neither the duties nor the state change and nothing is told, the display goes with them as
before. -/
theorem Displaying.quiet {moment : Moment Pipeline Turn} (displaying : Displaying past pipeline)
    (quiet : LeavesDisplay moment)
    (duties : next.duties = pipeline.duties)
    (state : next.state = pipeline.state) : Displaying (moment :: past) next := by
  cases displaying with
  | both paired shows => exact .both (duties ▸ paired) (state ▸ shows.quiet quiet)
  | told left paired shows => exact .told (duties.trans left) paired (shows.quiet quiet)
  | withdrawn left paired none => exact .withdrawn (duties.trans left) paired (state ▸ none)

/-- A moment at which the pipeline has nothing to do leaves the display alone. -/
theorem leavesDisplay_of_free {turn : Turn} (free : pipeline.duties = []) :
    LeavesDisplay ⟨pipeline, turn⟩ where
  told effect tells := by
    rw [told?_of_free free] at tells
    cases tells
  edits _ := not_does_of_free free

/-- An effect that finds a place is told. -/
theorem told?_of_tells {now : Instant} {sink : Sink TaskName} {effect : Effect} {rest : List Duty}
    (head : pipeline.duties = .emit effect :: rest)
    (delivered : (sink.emit .pipeline effect).1 ≠ .waits) :
    told? ⟨pipeline, .own now sink⟩ = some effect := by
  simp only [told?, head, if_neg delivered]

/-- What the presentation layer is told about a bonus is on display. -/
theorem shows_of_tells {moment : Moment Pipeline Turn} {bonus : Option BonusForecast}
    (tells : told? moment = some (bonusEffect bonus))
    (edits : ∀ text, ¬ Does (.publish (.amountEdited text)) moment) :
    Shows (moment :: past) bonus := by
  refine ⟨fun _ => ?_, fun stale => ?_⟩
  · rw [told, List.filterMap_cons_some tells]
    exact displayed_bonusEffect bonus _
  · rcases stale_cons.mp stale with ⟨⟨text, does⟩, _⟩ | ⟨silent, _⟩
    · exact (edits text does).elim
    · exact (silent ⟨_, tells, isBonus_bonusEffect bonus⟩).elim

/-- An edit that is taken over drops the bonus of the state, whatever is on display. -/
theorem Shows.edit {moment : Moment Pipeline Turn} {bonus : Option BonusForecast} {text : String}
    (shows : Shows past bonus)
    (silent : told? moment = none)
    (edits : Does (.publish (.amountEdited text)) moment) : Shows (moment :: past) none := by
  have same : displayed (told (moment :: past)) = displayed (told past) := by
    rw [told_cons_none silent]
  refine ⟨fun fresh => ?_, fun stale => ⟨?_, rfl⟩⟩
  · rw [same]
    by_contra present
    exact fresh (.now ⟨⟨text, edits⟩, present⟩)
  · rw [same]
    rcases stale_cons.mp stale with ⟨_, present⟩ | ⟨_, staleBefore⟩
    · exact present
    · exact (shows.stale staleBefore).1

/-- A duty that sets no bonus and takes over no edit leaves the bonus of the state. -/
theorem bonus_published {state : ScreenState} {duty : Duty}
    (silent : setsBonus duty = false)
    (edits : ∀ text, duty ≠ .publish (.amountEdited text)) :
    (published state duty).bonus = state.bonus := by
  cases duty with
  | publish action =>
      cases action with
      | amountEdited text => exact (edits text rfl).elim
      | bonusUpdated _ => cases silent
      | _ => rfl
  | _ => rfl

/-- An edit that is taken over drops the bonus of the state. -/
theorem bonus_amountEdited {state : ScreenState} {text : String}
    (valid : (AmountValue.ofText? text).isSome) :
    (state.next (.amountEdited text)).bonus = none := by
  obtain ⟨value, same⟩ := Option.isSome_iff_exists.mp valid
  simp only [ScreenState.next, same]

/-- Telling an effect keeps the display in step, since the other half of its pair comes next. -/
theorem Displaying.tells {now : Instant} {sink : Sink TaskName} {effect : Effect}
    {rest : List Duty}
    (displaying : Displaying past pipeline)
    (head : pipeline.duties = .emit effect :: rest)
    (delivered : (sink.emit .pipeline effect).1 ≠ .waits) :
    Displaying (⟨pipeline, .own now sink⟩ :: past) { pipeline with duties := rest } := by
  have tells : told? ⟨pipeline, .own now sink⟩ = some effect := told?_of_tells head delivered
  have edits : ∀ text, ¬ Does (.publish (.amountEdited text)) ⟨pipeline, .own now sink⟩ :=
    fun text => not_does_of_head head nofun
  cases displaying with
  | both paired shows =>
      rw [head] at paired
      cases paired with
      | other silent paired =>
          refine .both paired (shows.quiet ⟨fun other same => ?_, edits⟩)
          obtain rfl := Option.some.inj (tells.symm.trans same)
          exact silent
      | forecast paired => exact .told rfl paired (shows_of_tells tells edits)
  | told left _ _ => cases head.symm.trans left
  | withdrawn left paired none =>
      cases head.symm.trans left
      refine .both paired ?_
      rw [show ({ pipeline with duties := rest } : Pipeline).state.bonus = _ from none]
      exact shows_of_tells tells edits

/-- Performing a duty keeps the display in step.  An edit drops the bonus of the state and leaves
the display, which is stale from then on. -/
theorem Displaying.performs {now : Instant} {sink : Sink TaskName} {duty : Duty}
    {rest : List Duty}
    (displaying : Displaying past pipeline)
    (reached : Reaches (Pipeline.turn settings) (start settings) past pipeline)
    (running : pipeline.running = true)
    (head : pipeline.duties = duty :: rest)
    (silent : ∀ effect, duty ≠ .emit effect)
    (performed : Performed pipeline duty rest next) :
    Displaying (⟨pipeline, .own now sink⟩ :: past) next := by
  have tells : told? ⟨pipeline, .own now sink⟩ = none := told?_of_silent head silent
  have quiet (edits : ∀ text, duty ≠ .publish (.amountEdited text)) :
      LeavesDisplay ⟨pipeline, .own now sink⟩ := by
    refine ⟨fun effect same => ?_, fun text => not_does_of_head head (edits text)⟩
    cases tells.symm.trans same
  cases displaying with
  | both paired shows =>
      rw [head] at paired
      cases paired with
      | other neutral paired =>
          have pairedNext : Paired next.duties :=
            performed.duties ▸ (paired_added _ silent).append paired
          by_cases edits : ∃ text, duty = .publish (.amountEdited text)
          · obtain ⟨text, rfl⟩ := edits
            have valid := ((ready_of_anyOrder reached running).before head).1
            have dropped : next.state.bonus = none :=
              (congrArg ScreenState.bonus performed.state).trans (bonus_amountEdited valid)
            refine .both pairedNext ?_
            rw [dropped]
            exact shows.edit tells ⟨⟨now, sink, rfl⟩, rest, head⟩
          · have edits : ∀ text, duty ≠ .publish (.amountEdited text) := not_exists.mp edits
            refine .both pairedNext ?_
            rw [performed.state, bonus_published neutral edits]
            exact shows.quiet (quiet edits)
      | forecast _ => exact (silent _ rfl).elim
      | withdrawn paired =>
          exact .withdrawn performed.duties paired (congrArg ScreenState.bonus performed.state)
  | @told bonus others left paired shows =>
      cases head.symm.trans left
      refine .both (performed.duties ▸ paired) ?_
      rw [performed.state]
      exact shows.quiet (quiet nofun)
  | withdrawn left _ _ =>
      cases head.symm.trans left
      exact (silent _ rfl).elim

/-- Every step of the pipeline's own task keeps the display in step. -/
theorem Displaying.ownStep {now : Instant} {sink : Sink TaskName}
    (displaying : Displaying past pipeline)
    (reached : Reaches (Pipeline.turn settings) (start settings) past pipeline)
    (running : pipeline.running = true)
    (step : OwnStep settings now sink pipeline next) :
    Displaying (⟨pipeline, .own now sink⟩ :: past) next := by
  have taking (free : pipeline.duties = []) (bonus : next.state.bonus = pipeline.state.bonus)
      (paired : Paired next.duties) : Displaying (⟨pipeline, .own now sink⟩ :: past) next :=
    .both paired (bonus ▸ (displaying.shows free).quiet (leavesDisplay_of_free free))
  cases step with
  | stops free _ => exact taking free rfl (free ▸ .nil)
  | input free _ => exact taking free rfl (paired_inputDuties _)
  | deadline caughtUp _ => exact taking caughtUp.1 rfl (.other rfl .nil)
  | completion caughtUp _ => exact taking caughtUp.1 rfl (paired_completionDuties _)
  | waits head refused =>
      refine displaying.quiet ⟨fun effect tells => ?_, fun text => not_does_of_head head nofun⟩
        rfl rfl
      simp only [told?, head, if_pos refused] at tells
      cases tells
  | tells head delivered => exact displaying.tells head delivered
  | @performs duty rest head silent =>
      exact displaying.performs reached running head silent
        (performed settings now pipeline duty rest)

/-- Background tasks leave the display alone. -/
theorem leavesDisplay_of_backgroundStep {turn : Turn} (step : BackgroundStep pipeline turn next) :
    LeavesDisplay ⟨pipeline, turn⟩ := by
  have notOwn : ∀ now sink, turn ≠ .own now sink := by
    cases step <;> simp
  refine ⟨fun effect tells => ?_, fun text ⟨⟨now, sink, same⟩, _⟩ => notOwn now sink same⟩
  obtain ⟨⟨now, sink, same⟩, _⟩ := duties_of_told? tells
  exact (notOwn now sink same).elim

/-- In every run the display is in step with the state and what is left to do. -/
theorem displaying_of_reaches
    (reached : Reaches (Pipeline.turn settings) (start settings) past pipeline) :
    Displaying past pipeline := by
  induction reached with
  | start => exact .both .nil ⟨fun _ => rfl, fun stale => by cases stale⟩
  | step earlier moved ih =>
      rcases step_of_turn moved with ⟨now, sink, rfl, running, step⟩ | step
      · exact ih.ownStep earlier running step
      · have background := background_of_backgroundStep step
        exact ih.quiet (leavesDisplay_of_backgroundStep step) background.duties background.state

end Pipeline

namespace PipelineRun

/-- **The display departs from the state only where an edit has left a bonus behind.**  In every
run, in whatever order the inputs come and however the services answer, once nothing is left to do
of what was taken last, and so whenever the pipeline is idle: the bonus on display is the visible
bonus of the state, exactly unless it was on display when an edit was taken over and nothing has
been told about a bonus since.  The state has no bonus then. -/
theorem display_truthful_iff {settings : PipelineSettings}
    {past : List (Moment PipelineRun Move)} {run : PipelineRun}
    (reached : Reaches (PipelineRun.move settings) (PipelineRun.start settings) past run)
    (free : run.pipeline.duties = []) :
    (Pipeline.displayed (Pipeline.told (turns past))
        = BonusForecast.onDisplay run.pipeline.state.bonus ↔ ¬ Pipeline.Stale (turns past))
      ∧ (Pipeline.Stale (turns past) → run.pipeline.state.bonus = none) := by
  have shows := (Pipeline.displaying_of_reaches (reaches_turns reached)).shows free
  refine ⟨⟨fun same stale => ?_, shows.fresh⟩, fun stale => (shows.stale stale).2⟩
  obtain ⟨present, none⟩ := shows.stale stale
  rw [none] at same
  exact present same

/-! ## A run that ends with a bonus that the state does not have -/

/-- A run and what has been told in it, after a move. -/
def Sample.tellingMove (course : PipelineRun × List Effect) (event : Move) :
    Option (PipelineRun × List Effect) :=
  (course.1.move {} event).map fun next =>
    (next, ((course.1.turn? event).bind fun turn =>
      Pipeline.told? ⟨course.1.pipeline, turn⟩).toList ++ course.2)

/-- What a list of moves tells is what is collected along the way. -/
theorem Sample.told_of_tellingMoves {list : List Move} {run last : PipelineRun}
    {past : List (Moment PipelineRun Move)} {effects : List Effect}
    (ran : list.foldlM tellingMove (run, Pipeline.told (turns past)) = some (last, effects))
    (reached : Reaches (PipelineRun.move {}) (start {}) past run) :
    ∃ later, Reaches (PipelineRun.move {}) (start {}) later last
      ∧ Pipeline.told (turns later) = effects
      ∧ later.map Moment.event = list.reverse ++ past.map Moment.event := by
  induction list generalizing run past with
  | nil =>
      cases ran
      exact ⟨past, reached, rfl, rfl⟩
  | cons event list ih =>
      obtain ⟨course, moved, ran⟩ := Option.bind_eq_some_iff.mp ran
      obtain ⟨next, movedNext, rfl⟩ := Option.map_eq_some_iff.mp moved
      have told : ((run.turn? event).bind fun turn =>
          Pipeline.told? ⟨run.pipeline, turn⟩).toList ++ Pipeline.told (turns past)
            = Pipeline.told (turns (⟨run, event⟩ :: past)) := by
        cases turns : run.turn? event with
        | none => simp [PipelineRun.turns, turns]
        | some turn =>
            cases tells : Pipeline.told? ⟨run.pipeline, turn⟩ <;>
              simp [PipelineRun.turns, Pipeline.told, turns, tells]
      rw [told] at ran
      obtain ⟨later, reachedLater, toldLater, events⟩ := ih ran (reached.step movedNext)
      refine ⟨later, reachedLater, toldLater, ?_⟩
      rw [events, List.reverse_cons, List.append_assoc, List.map_cons, List.singleton_append]

/-- What has been told by the time the bonus for ten euros is on display. -/
def Sample.toldEffects : List Effect :=
  ((moves.foldlM tellingMove (start {}, [])).getD (start {}, [])).2

/-- The amount is cleared. -/
def Sample.clearingMoves : List Move :=
  [Move.send (.edit "")] ++ own 6 ++ [Move.advance 700] ++ own 7

/-- The run once the amount has been cleared. -/
def Sample.cleared : PipelineRun := after run clearingMoves

theorem display_truthful_iff_of_forecast :
    ∃ past, Reaches (PipelineRun.move {}) (start {}) past Sample.run
      ∧ Sample.run.pipeline.duties = []
      ∧ Pipeline.displayed (Pipeline.told (turns past)) = some (Sample.whole 3, tokenCode)
      ∧ BonusForecast.onDisplay Sample.run.pipeline.state.bonus
          = some (Sample.whole 3, tokenCode)
      ∧ ¬ Pipeline.Stale (turns past) := by
  have ran : Sample.moves.foldlM Sample.tellingMove (start {}, [])
      = some (Sample.run, Sample.toldEffects) := by rfl
  obtain ⟨past, reached, told, _⟩ := Sample.told_of_tellingMoves ran .start
  have displays : Pipeline.displayed (Pipeline.told (turns past))
      = some (Sample.whole 3, tokenCode) := by
    rw [told]
    rfl
  have earns : BonusForecast.onDisplay Sample.run.pipeline.state.bonus
      = some (Sample.whole 3, tokenCode) := rfl
  exact ⟨past, reached, rfl, displays, earns,
    (display_truthful_iff reached rfl).1.mp (displays.trans earns.symm)⟩

/-- The bonus of an amount that is cleared stays on display: the pipeline is idle, its state has no
bonus, and the presentation layer still shows three tokens. -/
theorem cleared_amount_keeps_bonus :
    ∃ past, Reaches (PipelineRun.move {}) (start {}) past Sample.cleared
      ∧ AmountInput.InOrder (Pipeline.sent (turns past))
      ∧ Sample.cleared.pipeline.IsIdle
      ∧ Sample.cleared.pipeline.state.bonus = none
      ∧ Pipeline.displayed (Pipeline.told (turns past)) = some (Sample.whole 3, tokenCode) := by
  have ran : Sample.moves.foldlM Sample.tellingMove (start {}, [])
      = some (Sample.run, Sample.toldEffects) := by rfl
  have clears : Sample.clearingMoves.foldlM Sample.tellingMove (Sample.run, Sample.toldEffects)
      = some (Sample.cleared,
          [.conversionValue Sample.cleared.pipeline.state.entry, .setSubmitEnabled false]
            ++ Sample.toldEffects) := by rfl
  obtain ⟨first, reachedFirst, toldFirst, eventsFirst⟩ := Sample.told_of_tellingMoves ran .start
  rw [← toldFirst] at clears
  obtain ⟨past, reached, told, events⟩ := Sample.told_of_tellingMoves clears reachedFirst
  refine ⟨past, reached, ?_, ⟨rfl, rfl, rfl, rfl, fun exchange same => ?_, fun work same => ?_,
    fun work same => ?_, rfl⟩, rfl, ?_⟩
  · rw [sent_turns, events, eventsFirst, List.map_nil, List.append_nil, List.reverse_append,
      List.reverse_reverse, List.reverse_reverse]
    change List.Pairwise _ [AmountInput.setup _ _, .selectMethod _, .edit _, .edit _]
    simp only [List.pairwise_cons, List.mem_cons, List.not_mem_nil, or_false, forall_eq_or_imp,
      forall_eq, reduceCtorEq, IsEmpty.forall_iff, implies_true, List.Pairwise.nil, and_self]
  · cases show LimitsLoad.idle = .loading exchange from same
  · cases show none = some work from same
  · cases show none = some work from same
  · rw [told, toldFirst]
    rfl

end PipelineRun

end WalletTopUp
