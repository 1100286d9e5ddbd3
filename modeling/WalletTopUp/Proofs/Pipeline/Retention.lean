import Mathlib.Algebra.Group.Nat.Even
import WalletTopUp.Proofs.Pipeline.SubmitControl
import WalletTopUp.Proofs.Pipeline.Supersession

/-!
# What becomes of a typed amount

The selected side is the source of truth, and settling overwrites the other one.  So an amount that
has been typed on a side stays there until it is settled, and it is lost then if at that time the
other side is selected, which has nothing to derive anything from.  That depends on nothing but how
often the sides have been switched before (`PipelineRun.typed_amount_kept_iff`): once the amount is
settled, a switch of sides changes neither of them.
-/

namespace WalletTopUp

theorem Side.other_eq_iff {side other : Side} : side.other = other ↔ side ≠ other := by
  cases side <;> cases other <;> simp [Side.other]

namespace Pipeline

variable {settings : PipelineSettings} {pipeline next : Pipeline} {past : History}
  {moment : Moment Pipeline Turn} {side : Side} {amount : AmountValue} {count : Nat}

/-- The last text that was taken over stood for this amount and was typed on this side, and since
then the sides have been switched this often before the amount had settled.  The amount may be any,
zero as well, but not the unknown one of an empty field. -/
inductive Typed (side : Side) (amount : AmountValue) : Nat → History → Prop where
  | typed {moment : Moment Pipeline Turn} {past : History} {text : String}
      (edits : Does (.publish (.amountEdited text)) moment)
      (value : AmountValue.ofText? text = some amount)
      (known : amount ≠ .unknown)
      (selected : moment.before.state.entry.selected = side) :
      Typed side amount 0 (moment :: past)
  | switched {moment : Moment Pipeline Turn} {past : History} {count : Nat}
      (switches : Does (.publish .currencySwitched) moment)
      (unsettled : moment.before.state.settled = false)
      (earlier : Typed side amount count past) :
      Typed side amount (count + 1) (moment :: past)
  | kept {moment : Moment Pipeline Turn} {past : History} {count : Nat}
      (calm : Calm moment)
      (earlier : Typed side amount count past) :
      Typed side amount count (moment :: past)

/-- An amount that has been typed is known. -/
theorem Typed.known (typed : Typed side amount count past) : amount ≠ .unknown := by
  induction typed with
  | typed _ _ known _ => exact known
  | switched _ _ _ ih => exact ih
  | kept _ _ ih => exact ih

/-- What was typed stays the last text as long as nothing is superseded. -/
theorem Typed.append {later : History} (calm : ∀ moment ∈ later, Calm moment)
    (typed : Typed side amount count past) : Typed side amount count (later ++ past) := by
  induction later with
  | nil => exact typed
  | cons moment later ih =>
      obtain ⟨calmFirst, calmRest⟩ := List.forall_mem_cons.mp calm
      exact .kept calmFirst (ih calmRest)

/-! ## What a turn does to the amounts -/

/-- What a turn does to the amounts and to the side that is selected. -/
inductive Revises (settings : PipelineSettings) (past : History) (moment : Moment Pipeline Turn)
    (next : Pipeline) : Prop where
  | edits {text : String}
      (does : Does (.publish (.amountEdited text)) moment)
      (state : next.state = moment.before.state.next (.amountEdited text))
  | switches
      (does : Does (.publish .currencySwitched) moment)
      (state : next.state = moment.before.state.next .currencySwitched)
  | settles {derived : AmountValue}
      (unsettled : moment.before.state.settled = false)
      (derives : Derives settings past moment.before.state.entry.selected
        moment.before.state.entry.source derived)
      (state : next.state = moment.before.state.next (.conversionSettled derived))
  | keeps
      (selected : next.state.entry.selected = moment.before.state.entry.selected)
      (sides : ∀ side, next.state.entry.side side = moment.before.state.entry.side side)
      (settled : next.state.settled = moment.before.state.settled)

/-- A turn that leaves the state alone revises nothing. -/
theorem Revises.of_state (same : next.state = moment.before.state) :
    Revises settings past moment next :=
  .keeps (by rw [same]) (fun _ => by rw [same]) (by rw [same])

/-- What performing a duty of the pipeline's own task does to the amounts. -/
theorem revises_of_performs {duty : Duty} {rest : List Duty} {now : Instant} {sink : Sink TaskName}
    (reached : Reaches (Pipeline.turn settings) (start settings) past pipeline)
    (running : pipeline.running = true)
    (head : pipeline.duties = duty :: rest)
    (state : next.state = published pipeline.state duty) :
    Revises settings past ⟨pipeline, .own now sink⟩ next := by
  have does : Does duty ⟨pipeline, .own now sink⟩ := ⟨⟨now, sink, rfl⟩, rest, head⟩
  have publishing := (converted_of_reaches reached).publishing
  have before := (ready_of_anyOrder reached running).before head
  cases duty with
  | publish action =>
      cases action with
      | amountEdited text => exact .edits does state
      | currencySwitched => exact .switches does state
      | conversionSettled derived =>
          exact .settles before.unsettled (publishing derived (head ▸ List.mem_cons_self)) state
      | setupLoaded _ _ =>
          exact .keeps (by rw [state]; rfl) (fun side => by rw [state]; cases side <;> rfl)
            (by rw [state]; rfl)
      | _ => exact .keeps (by rw [state]; rfl) (fun _ => by rw [state]; rfl) (by rw [state]; rfl)
  | _ => exact .of_state state

/-- Every turn of a run does one of these things to the amounts. -/
theorem revises_of_turn {turn : Turn}
    (reached : Reaches (Pipeline.turn settings) (start settings) past pipeline)
    (moved : pipeline.turn settings turn = some next) :
    Revises settings past ⟨pipeline, turn⟩ next := by
  rcases step_of_turn moved with ⟨now, sink, rfl, running, step⟩ | step
  · cases step with
    | performs head _ => exact revises_of_performs reached running head (state_perform _ _)
    | _ => exact .of_state rfl
  · exact .of_state (background_of_backgroundStep step).state

/-! ## The invariant -/

/-- Where an amount is after the sides have been switched this often since it was typed.  It stays
on its side, and the other side stays unknown, until it is settled.  Then it still stays there if it
is the one on the selected side; otherwise both sides are unknown. -/
structure Retains (side : Side) (amount : AmountValue) (count : Nat) (state : ScreenState) :
    Prop where
  selected : state.settled = false → (state.entry.selected = side ↔ Even count)
  underived : state.settled = false → state.entry.side side.other = .unknown
  held : state.settled = false ∨ Even count → state.entry.side side = amount
  lost : state.settled = true → ¬ Even count → ∀ either, state.entry.side either = .unknown

variable {state : ScreenState}

/-- An amount that is taken over is on the side on which it was typed. -/
theorem retains_typed {text : String}
    (value : AmountValue.ofText? text = some amount)
    (selected : state.entry.selected = side) :
    Retains side amount 0 (state.next (.amountEdited text)) := by
  subst selected
  simp only [ScreenState.next, value]
  refine ⟨fun _ => ⟨fun _ => Even.zero, fun _ => ?_⟩, fun _ => ?_, fun _ => ?_,
    fun settled => (by cases settled)⟩ <;>
    cases chosen : state.entry.selected <;> simp [AmountEntry.withSide, AmountEntry.side, chosen,
      Side.other]

/-- The sides are switched before the amount has settled. -/
theorem Retains.switched (retains : Retains side amount count state)
    (unsettled : state.settled = false) :
    Retains side amount (count + 1) (state.next .currencySwitched) where
  selected _ := by
    rw [Nat.even_add_one, ← retains.selected unsettled]
    exact Side.other_eq_iff
  underived _ := by
    have underived := retains.underived unsettled
    cases side <;> exact underived
  held _ := by
    have held := retains.held (.inl unsettled)
    cases side <;> exact held
  lost settled := Bool.noConfusion (unsettled.symm.trans settled)

/-- The amount is settled.  If it is not on the selected side, it is overwritten. -/
theorem Retains.settles {derived : AmountValue} (retains : Retains side amount count state)
    (unsettled : state.settled = false)
    (derives : Derives settings past state.entry.selected state.entry.source derived) :
    Retains side amount count (state.next (.conversionSettled derived)) := by
  have chosen := retains.selected unsettled
  refine ⟨fun still => (by cases still), fun still => (by cases still), fun either => ?_,
    fun _ odd => ?_⟩
  · have even : Even count := either.resolve_left fun still => (by cases still)
    obtain rfl := chosen.mpr even
    exact (state.entry.side_withSide_opposite _ _).trans (retains.held (.inl unsettled))
  · -- The side that is selected has been unknown since the edit, so nothing is derived from it.
    have other : state.entry.selected.other = side :=
      Side.other_eq_iff.mpr fun same => odd (chosen.mp same)
    obtain rfl := other
    have unknown : state.entry.source = .unknown := by
      have underived := retains.underived unsettled
      rwa [Side.other_other] at underived
    rw [unknown] at derives
    cases derives
    intro either
    simp only [ScreenState.next]
    by_cases same : state.entry.selected = either
    · subst same
      rw [AmountEntry.side_withSide_opposite]
      exact unknown
    · rw [← Side.other_eq_iff.mpr same, AmountEntry.side_withSide_self]

/-- Where an amount is depends on the sides and on whether it is settled, and on which side is
selected only until then. -/
theorem Retains.keeps {after : ScreenState} (retains : Retains side amount count state)
    (selected : state.settled = false → after.entry.selected = state.entry.selected)
    (sides : ∀ side, after.entry.side side = state.entry.side side)
    (settled : after.settled = state.settled) : Retains side amount count after where
  selected unsettled := by
    rw [settled] at unsettled
    rw [selected unsettled]
    exact retains.selected unsettled
  underived unsettled := by
    rw [sides]
    exact retains.underived (settled ▸ unsettled)
  held either := by
    rw [sides]
    exact retains.held (settled ▸ either)
  lost was odd either := by
    rw [sides]
    exact retains.lost (settled ▸ was) odd either

/-- **A typed amount stays on its side until it is settled, and afterwards if the sides have been
switched an even number of times before.** -/
theorem retains_of_typed
    (reached : Reaches (Pipeline.turn settings) (start settings) past pipeline)
    (typed : Typed side amount count past) : Retains side amount count pipeline.state := by
  -- By induction on the run.  The count decides whether the amount is on the selected side, which
  -- is what matters when it is settled.
  induction reached generalizing count with
  | start => cases typed
  | @step past middle next turn earlier moved ih =>
      cases typed with
      | typed edits value _ selected =>
          obtain ⟨now, rest, rfl⟩ := performs_of_does moved edits (by simp)
          exact retains_typed value selected
      | switched switches unsettled before =>
          obtain ⟨now, rest, rfl⟩ := performs_of_does moved switches (by simp)
          exact (ih before).switched unsettled
      | kept calm before =>
          have retains := ih before
          cases revises_of_turn earlier moved with
          | edits does _ => exact (calm (.inl ⟨_, does⟩)).elim
          | switches does state =>
              rw [state]
              refine retains.keeps (fun unsettled => (calm (.inr ⟨does, unsettled⟩)).elim)
                (fun side => by cases side <;> rfl) rfl
          | settles unsettled derives state =>
              rw [state]
              exact retains.settles unsettled derives
          | keeps selected sides settled => exact retains.keeps (fun _ => selected) sides settled

/-! ## After the amount has settled -/

/-- Once the amount has settled, a turn that takes over no text changes neither side. -/
theorem Revises.stays (revises : Revises settings past moment next)
    (settled : moment.before.state.settled = true)
    (untyped : ∀ text, ¬ Does (.publish (.amountEdited text)) moment) :
    next.state.settled = true
      ∧ ∀ either, next.state.entry.side either = moment.before.state.entry.side either := by
  cases revises with
  | edits does _ => exact absurd does (untyped _)
  | switches _ state =>
      rw [state]
      exact ⟨settled, fun either => by cases either <;> rfl⟩
  | settles unsettled _ _ => exact Bool.noConfusion (unsettled.symm.trans settled)
  | keeps _ sides still => exact ⟨still.trans settled, sides⟩

/-- **Once the amount has settled, neither side changes** until the next text is taken over. -/
theorem stays_of_settled {earlier later : History} {middle : Pipeline}
    (reached : Reaches (Pipeline.turn settings) (start settings) earlier middle)
    (after : Reaches (Pipeline.turn settings) middle later pipeline)
    (settled : middle.state.settled = true)
    (untyped : ∀ moment ∈ later, ∀ text, ¬ Does (.publish (.amountEdited text)) moment) :
    pipeline.state.settled = true
      ∧ ∀ either, pipeline.state.entry.side either = middle.state.entry.side either := by
  induction after with
  | start => exact ⟨settled, fun _ => rfl⟩
  | @step later between next turn before moved ih =>
      obtain ⟨untypedNow, untypedBefore⟩ := List.forall_mem_cons.mp untyped
      obtain ⟨still, same⟩ := ih untypedBefore
      obtain ⟨stays, sides⟩ :=
        (revises_of_turn (reached.trans before) moved).stays still untypedNow
      exact ⟨stays, fun either => (sides either).trans (same either)⟩

end Pipeline

namespace PipelineRun

variable {settings : PipelineSettings} {past : List (Moment PipelineRun Move)} {run : PipelineRun}
  {side : Side} {amount : AmountValue} {count : Nat}

/-- **A typed amount is kept unless the other side is selected when it is settled.**  In every run,
whatever comes in between and however the broker answers: the amount that was typed last is on the
side on which it was typed exactly as long as it has not been settled, and afterwards if the sides
have been switched an even number of times before it was.  Otherwise both sides are unknown.  Once
it has been settled, neither side changes any more before the next text is taken over. -/
theorem typed_amount_kept_iff
    (reached : Reaches (PipelineRun.move settings) (start settings) past run)
    (typed : Pipeline.Typed side amount count (turns past)) :
    (run.pipeline.state.entry.side side = amount
        ↔ run.pipeline.state.settled = false ∨ Even count)
      ∧ (run.pipeline.state.settled = true → ¬ Even count →
          ∀ either, run.pipeline.state.entry.side either = .unknown)
      ∧ ∀ later last, Reaches (PipelineRun.move settings) run later last →
          run.pipeline.state.settled = true →
          (∀ moment ∈ turns later, ∀ text,
            ¬ Pipeline.Does (.publish (.amountEdited text)) moment) →
          last.pipeline.state.settled = true
            ∧ ∀ either, last.pipeline.state.entry.side either
                = run.pipeline.state.entry.side either := by
  have reachedTurns := reaches_turns reached
  have retains := Pipeline.retains_of_typed reachedTurns typed
  refine ⟨⟨fun held => ?_, retains.held⟩, retains.lost, fun later last after settled untyped =>
    Pipeline.stays_of_settled reachedTurns (reaches_turns after) settled untyped⟩
  cases settled : run.pipeline.state.settled with
  | false => exact .inl rfl
  | true =>
      by_contra odd
      have lost := retains.lost settled (fun even => odd (.inr even)) side
      exact typed.known (held.symm.trans lost)

/-! ## Runs in which a typed amount is kept and in which it is lost -/

/-- Whether the next step of the pipeline supersedes nothing. -/
def Sample.isCalm (pipeline : Pipeline) : Bool :=
  match pipeline.duties with
  | .publish (.amountEdited _) :: _ => false
  | .publish .currencySwitched :: _ => pipeline.state.settled
  | _ => true

/-- If the next step supersedes nothing, whatever happens next is calm. -/
theorem Sample.calm_of_isCalm {pipeline : Pipeline} {turn : Pipeline.Turn}
    (calm : isCalm pipeline = true) : Pipeline.Calm ⟨pipeline, turn⟩ := by
  rintro (⟨text, _, rest, head⟩ | ⟨⟨_, rest, head⟩, unsettled⟩)
  · have head : pipeline.duties = _ := head
    simp only [isCalm, head, Bool.false_eq_true] at calm
  · have head : pipeline.duties = _ := head
    simp only [isCalm, head] at calm
    exact Bool.noConfusion (unsettled.symm.trans calm)

/-- The run after a move that supersedes nothing. -/
def Sample.calmMove (run : PipelineRun) (event : Move) : Option PipelineRun :=
  if isCalm run.pipeline then run.move {} event else none

/-- A move that supersedes nothing is a move. -/
theorem Sample.move_of_calmMove {event : Move} {next : PipelineRun}
    (moved : calmMove run event = some next) :
    isCalm run.pipeline = true ∧ run.move {} event = some next := by
  unfold calmMove at moved
  split at moved
  · next calm => exact ⟨calm, moved⟩
  · cases moved

/-- What happens in moves that supersede nothing is calm. -/
theorem Sample.calm_of_calmMoves {list : List Move} {last : PipelineRun}
    (ran : list.foldlM calmMove run = some last) :
    ∃ later, Reaches (PipelineRun.move {}) run later last
      ∧ ∀ moment ∈ turns later, Pipeline.Calm moment := by
  obtain ⟨later, reachedLater, _⟩ := Reaches.of_foldlM ran
  refine ⟨later, reachedLater.mono fun _ _ _ moved => (move_of_calmMove moved).2,
    fun moment member => ?_⟩
  obtain ⟨whole, inLater, shown⟩ := List.mem_filterMap.mp member
  obtain ⟨turn, _, rfl⟩ := Option.map_eq_some_iff.mp shown
  obtain ⟨_, _, _, _, moved⟩ := reachedLater.exists_of_mem inLater
  exact calm_of_isCalm (move_of_calmMove moved).1

/-- Moves that supersede nothing leave the last text the last. -/
theorem Sample.typed_of_calmMoves {list : List Move} {last : PipelineRun}
    (ran : list.foldlM calmMove run = some last)
    (reached : Reaches (PipelineRun.move {}) (start {}) past run)
    (typed : Pipeline.Typed side amount count (turns past)) :
    ∃ past, Reaches (PipelineRun.move {}) (start {}) past last
      ∧ Pipeline.Typed side amount count (turns past) := by
  obtain ⟨later, reachedLater, calm⟩ := calm_of_calmMoves ran
  refine ⟨_, reached.trans reachedLater, ?_⟩
  rw [turns_append]
  exact typed.append calm

/-- Ten euros are about to be taken over as the amount of the selected side. -/
def Sample.editing : PipelineRun := after (start {}) ([.send (.edit "10")] ++ own 3)

/-- The ten euros have been taken over. -/
def Sample.edited : PipelineRun := after editing (own 1)

/-- Everything is handled that is left, and a switch of the sides is taken. -/
def Sample.takeSwitch (left : Nat) : List Move := own left ++ [Move.send .switchCurrency] ++ own 1

/-- The sides are about to be switched before the amount is settled. -/
def Sample.switching : PipelineRun := after edited (takeSwitch 2)

/-- The sides have been switched. -/
def Sample.switched : PipelineRun := after switching (own 1)

/-- The sides are about to be switched back before the amount is settled. -/
def Sample.switchingBack : PipelineRun := after switched (takeSwitch 5)

/-- The sides have been switched back. -/
def Sample.switchedBack : PipelineRun := after switchingBack (own 1)

/-- The ten euros are the last text when the sides have been switched once. -/
theorem Sample.reaches_switched :
    ∃ past, Reaches (PipelineRun.move {}) (start {}) past switched
      ∧ Pipeline.Typed .fiat (.value (whole 10)) 1 (turns past) := by
  have ran : (start {}).moves {} ([.send (.edit "10")] ++ own 3) = some editing := by rfl
  have edits : editing.move {} (.step .pipeline) = some edited := by rfl
  have later : (takeSwitch 2).foldlM calmMove edited = some switching := by rfl
  have switches : switching.move {} (.step .pipeline) = some switched := by rfl
  obtain ⟨first, reachedFirst, _⟩ := reaches_of_moves ran
  have typed : Pipeline.Typed .fiat (.value (whole 10)) 0
      (turns (⟨editing, .step .pipeline⟩ :: first)) :=
    .typed ⟨⟨_, _, rfl⟩, _, rfl⟩ rfl nofun rfl
  obtain ⟨past, reached, typed⟩ := typed_of_calmMoves later (reachedFirst.step edits) typed
  exact ⟨_, reached.step switches, .switched ⟨⟨_, _, rfl⟩, _, rfl⟩ rfl typed⟩

/-- The amount is converted, and its limits are loaded. -/
def Sample.convertMoves : List Move :=
  own 5 ++ [Move.advance 700] ++ own 2
    ++ [Move.step .conversion, .answer 0 server, .step .conversion] ++ own 7
    ++ [Move.step .limits, .answer 1 server, .step .limits] ++ own 8

/-- The amount has been settled after two switches of the sides. -/
def Sample.converted : PipelineRun := after switchedBack convertMoves

/-- After the settling the sides are switched once more, and everything is handled. -/
def Sample.switchedLate : PipelineRun := after converted (takeSwitch 0 ++ own 4)

/-- What ten euros are worth to the sample services. -/
def Sample.worth : Decimal := (Decimal.ofParts? false 20000 2).getD .zero

theorem typed_amount_kept_iff_of_two_switches :
    (∃ past, Reaches (PipelineRun.move {}) (start {}) past Sample.converted
      ∧ Pipeline.Typed .fiat (.value (Sample.whole 10)) 2 (turns past)
      ∧ Sample.converted.pipeline.state.settled = true
      ∧ Sample.converted.pipeline.state.entry.side .fiat = .value (Sample.whole 10)
      ∧ Sample.converted.pipeline.state.entry.side .token = .value Sample.worth)
      ∧ (∃ later, Reaches (PipelineRun.move {}) Sample.converted later Sample.switchedLate)
      ∧ Sample.converted.pipeline.state.entry.selected = .fiat
      ∧ Sample.switchedLate.pipeline.state.entry.selected = .token
      ∧ Sample.switchedLate.pipeline.state.entry.side .fiat = .value (Sample.whole 10)
      ∧ Sample.switchedLate.pipeline.state.entry.side .token = .value Sample.worth := by
  have later : (Sample.takeSwitch 5).foldlM Sample.calmMove Sample.switched
      = some Sample.switchingBack := by rfl
  have switches : Sample.switchingBack.move {} (.step .pipeline) = some Sample.switchedBack := by
    rfl
  have converts : Sample.convertMoves.foldlM Sample.calmMove Sample.switchedBack
      = some Sample.converted := by rfl
  obtain ⟨first, reachedFirst, typedOnce⟩ := Sample.reaches_switched
  obtain ⟨middle, reachedMiddle, typedStill⟩ :=
    Sample.typed_of_calmMoves later reachedFirst typedOnce
  have typedTwice : Pipeline.Typed .fiat (.value (Sample.whole 10)) 2
      (turns (⟨Sample.switchingBack, .step .pipeline⟩ :: middle)) :=
    .switched ⟨⟨_, _, rfl⟩, _, rfl⟩ rfl typedStill
  obtain ⟨past, reached, typed⟩ :=
    Sample.typed_of_calmMoves converts (reachedMiddle.step switches) typedTwice
  obtain ⟨kept, -, stays⟩ := typed_amount_kept_iff reached typed
  have fiat := kept.mpr (.inr even_two)
  have token : Sample.converted.pipeline.state.entry.side .token = .value Sample.worth := by rfl
  have switchesLate : (Sample.takeSwitch 0 ++ Sample.own 4).foldlM Sample.calmMove Sample.converted
      = some Sample.switchedLate := by rfl
  obtain ⟨later, reachedLater, calm⟩ := Sample.calm_of_calmMoves switchesLate
  have same := (stays later Sample.switchedLate reachedLater rfl fun moment member text does =>
    calm moment member (.inl ⟨text, does⟩)).2
  exact ⟨⟨past, reached, typed, rfl, fiat, token⟩, ⟨later, reachedLater⟩, rfl, rfl,
    (same .fiat).trans fiat, (same .token).trans token⟩

/-- The amount is settled with the other side selected, and the limits are loaded. -/
def Sample.emptyMoves : List Move :=
  own 5 ++ [Move.advance 700] ++ own 8 ++ [Move.step .limits, .answer 0 server, .step .limits]
    ++ own 4

/-- The amount has been settled after one switch of the sides. -/
def Sample.emptied : PipelineRun := after switched emptyMoves

/-- A switch of the sides before ten euros have been settled loses them, although no call has
failed: with nothing left to do the pipeline holds no amount at all. -/
theorem typed_amount_lost :
    ∃ past, Reaches (PipelineRun.move {}) (start {}) past Sample.emptied
      ∧ Pipeline.Typed .fiat (.value (Sample.whole 10)) 1 (turns past)
      ∧ (Sample.whole 10).isPositive = true
      ∧ Sample.emptied.calls.map Call.request = [.limits ""]
      ∧ Sample.emptied.pipeline.IsIdle
      ∧ Sample.emptied.pipeline.state.entry.side .fiat = .unknown
      ∧ Sample.emptied.pipeline.state.entry.side .token = .unknown := by
  have empties : Sample.emptyMoves.foldlM Sample.calmMove Sample.switched
      = some Sample.emptied := by rfl
  obtain ⟨first, reachedFirst, typedOnce⟩ := Sample.reaches_switched
  obtain ⟨past, reached, typed⟩ := Sample.typed_of_calmMoves empties reachedFirst typedOnce
  refine ⟨past, reached, typed, rfl, rfl, ?_, rfl, rfl⟩
  refine ⟨rfl, rfl, rfl, rfl, fun exchange same => ?_, fun work same => ?_, fun work same => ?_,
    rfl⟩
  · cases show LimitsLoad.idle = .loading exchange from same
  · cases show none = some work from same
  · cases show none = some work from same

end PipelineRun

end WalletTopUp
