import WalletTopUp.Proofs.Amount.Text
import WalletTopUp.Proofs.Pipeline.Events

/-!
# Where the derived side comes from

A settled amount was settled at some moment, and nothing has superseded it since.  What was taken
over at that moment belongs to the amount that stood on the selected side: it is unknown or zero if
that amount says so, and otherwise the broker's answer for exactly that amount, asked for after
everything that could have superseded it (`Pipeline.Derives`, `Pipeline.SettledSince`).

The invariant behind it follows a conversion from its beginning through its calls and its queued
result to the moment it is taken over (`Pipeline.Converted`).  In between it may already be doomed:
the sides have been switched, and its cancellation is among the duties that are left.
-/

namespace WalletTopUp

/-- An amount that is neither zero nor above it is below it. -/
theorem Decimal.negative_of_not_positive {amount : Decimal} (nonzero : amount.isZero = false)
    (notPositive : ¬ amount.isPositive = true) : amount.negative = true := by
  by_contra notNegative
  refine notPositive ?_
  simp only [Decimal.isZero, beq_eq_false_iff_ne] at nonzero
  simp only [Decimal.isPositive, Bool.not_eq_true _ ▸ notNegative, Bool.not_false, Bool.true_and,
    bne_iff_ne]
  exact nonzero

namespace Pipeline

variable {settings : PipelineSettings} {pipeline next : Pipeline} {past : History}
  {moment : Moment Pipeline Turn}

/-! ## The story of a conversion -/

/-- The conversion of an amount begins.  The amount stands on the selected side of the entry. -/
def BeginsConversion (entry : AmountEntry) (amount : Decimal) (moment : Moment Pipeline Turn) :
    Prop :=
  Does .convert moment ∧ moment.before.state.entry = entry ∧ entry.source = .value amount
    ∧ amount.isPositive = true

/-- What an amount on a side is converted into.  A positive amount is converted by the broker's
answer to a request for this amount in this direction, which was begun after the last accepted edit
and after the last switch of sides before the amount had settled. -/
inductive Derives (settings : PipelineSettings) (past : History) (side : Side) :
    AmountValue → AmountValue → Prop where
  | unknown : Derives settings past side .unknown .unknown
  | zero : Derives settings past side .zero .zero
  | negative {amount : Decimal} (below : amount.negative = true) :
      Derives settings past side (.value amount) .unknown
  | converted {amount : Decimal} {entry : AmountEntry} {quote : Quote}
      (selected : entry.selected = side)
      (positive : amount.isPositive = true)
      (learned : LearnedSince Calm (BeginsConversion entry amount) .conversion past
        (.quote (sourceCode entry) amount.toText (targetCode entry)) (.ok quote)) :
      Derives settings past side (.value amount)
        (.ofDecimal (quote.value.floorToScale settings.conversionScale))

/-- The amount of one side was settled from the amount of the other one, and since then neither has
changed and nothing has superseded them. -/
def SettledSince (settings : PipelineSettings) (past : History) (entry : AmountEntry) : Prop :=
  ∃ side, Since
    (fun moment => Calm moment ∧ moment.before.state.settled = true
      ∧ ∀ side, moment.before.state.entry.side side = entry.side side)
    (fun moment before =>
      Does (.publish (.conversionSettled (entry.side side.other))) moment
        ∧ moment.before.state.entry.selected = side
        ∧ moment.before.state.entry.source = entry.side side
        ∧ Derives settings before side (entry.side side) (entry.side side.other))
    past

/-- A conversion of the amount on the selected side is under way. -/
def Underway (settings : PipelineSettings) (past : History) (entry : AmountEntry)
    (exchange : Exchange ConversionResult) : Prop :=
  ∃ begun amount, begun.selected = entry.selected ∧ entry.source = .value amount
    ∧ amount.isPositive = true
    ∧ Since Calm (fun moment _ => BeginsConversion begun amount moment) past
    ∧ exchange.Follows (AskedSince Calm (BeginsConversion begun amount) .conversion past)
        (LearnedSince Calm (BeginsConversion begun amount) .conversion past)
        (conversionOf settings begun amount)

/-- The conversion under way is going to be cancelled before anything else is taken. -/
def Doomed (pipeline : Pipeline) : Prop :=
  .cancelConversion ∈ pipeline.duties
    ∨ (.rearm ∈ pipeline.duties ∧ pipeline.state.settled = false)

/-- What has been derived stays derived as long as nothing is superseded. -/
theorem Derives.later {side : Side} {source derived : AmountValue} (calm : Calm moment)
    (derives : Derives settings past side source derived) :
    Derives settings (moment :: past) side source derived := by
  cases derives with
  | unknown => exact .unknown
  | zero => exact .zero
  | negative below => exact .negative below
  | converted selected positive learned => exact .converted selected positive (.later calm learned)

/-- What is derived is never a known amount that is zero. -/
theorem Derives.isProper {side : Side} {source derived : AmountValue}
    (derives : Derives settings past side source derived) : derived.IsProper := by
  cases derives with
  | unknown | zero | negative _ =>
      intro amount same
      cases same
  | converted _ _ _ => exact AmountValue.isProper_ofDecimal _

/-- A conversion under way stays the one that is wanted as long as nothing is superseded. -/
theorem Underway.later {entry : AmountEntry} {exchange : Exchange ConversionResult}
    (calm : Calm moment)
    (underway : Underway settings past entry exchange) :
    Underway settings (moment :: past) entry exchange := by
  obtain ⟨begun, amount, selected, source, positive, since, follows⟩ := underway
  exact ⟨begun, amount, selected, source, positive, .later calm since, follows_later follows calm⟩

/-- A conversion that ends has derived the other side. -/
theorem Underway.derives {entry : AmountEntry} {exchange : Exchange ConversionResult}
    {money : Money}
    (underway : Underway settings past entry exchange)
    (ended : exchange.result? = some (.ok money)) :
    Derives settings past entry.selected entry.source (.ofDecimal money.amount) := by
  obtain ⟨begun, amount, selected, source, positive, _, follows⟩ := underway
  obtain ⟨quote, learned, rfl⟩ := leads_conversionOf (follows.result ended)
  rw [source]
  exact .converted selected positive learned

/-- Amounts that have settled stay so as long as nothing is superseded, even when the sides are
switched. -/
theorem SettledSince.later {entry entryNext : AmountEntry} (calm : Calm moment)
    (wasSettled : moment.before.state.settled = true)
    (was : moment.before.state.entry = entry)
    (sides : ∀ side, entryNext.side side = entry.side side)
    (settled : SettledSince settings past entry) :
    SettledSince settings (moment :: past) entryNext := by
  obtain ⟨side, since⟩ := settled
  refine ⟨side, .later ⟨calm, wasSettled, fun side => ?_⟩ (since.mono (fun earlier kept => ?_)
    fun earlier before happened => ?_)⟩
  · rw [was, sides]
  · exact ⟨kept.1, kept.2.1, fun side => (kept.2.2 side).trans (sides side).symm⟩
  · rw [sides, sides]
    exact happened

/-! ## The invariant -/

/-- Where everything comes from that is or may become the derived side. -/
structure Converted (settings : PipelineSettings) (past : History) (pipeline : Pipeline) :
    Prop where
  proper : ∀ side, (pipeline.state.entry.side side).IsProper
  underway : ∀ work, pipeline.conversions.current = some work →
    pipeline.Doomed ∨ Underway settings past pipeline.state.entry work.exchange
  reported : ∀ derived, .converted pipeline.conversions.ticket derived ∈ pipeline.completions →
    pipeline.Doomed
      ∨ Derives settings past pipeline.state.entry.selected pipeline.state.entry.source derived
  settling : ∀ derived, .settle derived ∈ pipeline.duties →
    Derives settings past pipeline.state.entry.selected pipeline.state.entry.source derived
  publishing : ∀ derived, .publish (.conversionSettled derived) ∈ pipeline.duties →
    Derives settings past pipeline.state.entry.selected pipeline.state.entry.source derived
  settled : pipeline.state.settled = true → SettledSince settings past pipeline.state.entry

/-- At the start nothing has been derived. -/
theorem converted_start : Converted settings [] (start settings) where
  proper side amount same := by cases side <;> cases same
  underway _ same := by cases same
  reported _ member := by cases member
  settling _ member := by cases member
  publishing _ member := by cases member
  settled same := by cases same

/-- The amount on the selected side depends on the sides and the choice among them. -/
theorem source_eq {entry entryNext : AmountEntry} (selected : entryNext.selected = entry.selected)
    (sides : ∀ side, entryNext.side side = entry.side side) : entryNext.source = entry.source := by
  rw [AmountEntry.source, selected, sides, AmountEntry.source]

/-- What a conversion converts depends on the sides and the choice among them. -/
theorem Underway.of_entry {entry entryNext : AmountEntry} {exchange : Exchange ConversionResult}
    (underway : Underway settings past entry exchange)
    (selected : entryNext.selected = entry.selected)
    (sides : ∀ side, entryNext.side side = entry.side side) :
    Underway settings past entryNext exchange := by
  unfold Underway
  rw [selected, source_eq selected sides]
  exact underway

/-- A step that supersedes nothing, leaves both sides as they are and starts no conversion. -/
theorem Converted.keep {turn : Turn}
    (converted : Converted settings past pipeline)
    (calm : Calm ⟨pipeline, turn⟩)
    (selected : next.state.entry.selected = pipeline.state.entry.selected)
    (sides : ∀ side, next.state.entry.side side = pipeline.state.entry.side side)
    (settled : next.state.settled = true → pipeline.state.settled = true)
    (underway : ∀ work, next.conversions.current = some work →
      pipeline.conversions.current = some work ∧ (pipeline.Doomed → next.Doomed))
    (reported : ∀ derived, .converted next.conversions.ticket derived ∈ next.completions →
      .converted pipeline.conversions.ticket derived ∈ pipeline.completions
        ∧ (pipeline.Doomed → next.Doomed))
    (settling : ∀ derived, .settle derived ∈ next.duties →
      Derives settings past pipeline.state.entry.selected pipeline.state.entry.source derived)
    (publishing : ∀ derived, .publish (.conversionSettled derived) ∈ next.duties →
      Derives settings past pipeline.state.entry.selected pipeline.state.entry.source derived) :
    Converted settings (⟨pipeline, turn⟩ :: past) next where
  proper side := by
    rw [sides]
    exact converted.proper side
  underway work current := by
    obtain ⟨was, doomed⟩ := underway work current
    exact (converted.underway work was).imp doomed fun under =>
      (under.later calm).of_entry selected sides
  reported derived member := by
    obtain ⟨was, doomed⟩ := reported derived member
    rw [selected, source_eq selected sides]
    exact (converted.reported derived was).imp doomed fun derives => derives.later calm
  settling derived member := by
    rw [selected, source_eq selected sides]
    exact (settling derived member).later calm
  publishing derived member := by
    rw [selected, source_eq selected sides]
    exact (publishing derived member).later calm
  settled isSettled :=
    (converted.settled (settled isSettled)).later calm (settled isSettled) rfl sides

/-- A pipeline with nothing left to do is not doomed. -/
theorem not_doomed_of_free (free : pipeline.duties = []) : ¬ pipeline.Doomed := by
  rintro (member | ⟨member, _⟩) <;>
    · rw [free] at member
      cases member

/-- What is doomed stays so until its cancellation is done. -/
theorem Doomed.passes {duty : Duty} {rest : List Duty} (doomed : pipeline.Doomed)
    (head : pipeline.duties = duty :: rest)
    (left : ∀ duty ∈ rest, duty ∈ next.duties)
    (settled : next.state.settled = pipeline.state.settled)
    (cancels : duty ≠ .cancelConversion)
    (rearms : duty = .rearm → pipeline.state.settled = false → .cancelConversion ∈ next.duties) :
    next.Doomed := by
  rcases doomed with member | ⟨member, unsettled⟩
  · rw [head] at member
    rcases List.mem_cons.mp member with same | rest
    · exact (cancels same.symm).elim
    · exact .inl (left _ rest)
  · rw [head] at member
    rcases List.mem_cons.mp member with same | rest
    · exact .inl (rearms same.symm unsettled)
    · exact .inr ⟨left _ rest, settled.trans unsettled⟩

/-- Once cancelled, no report of a conversion carries the ticket that is wanted. -/
theorem Accounted.not_reported_cancel (accounted : pipeline.Accounted) (derived : AmountValue) :
    .converted pipeline.conversions.cancel.ticket derived ∉ pipeline.completions := fun member =>
  accounted.conversions.unreported (List.mem_filterMap.mpr ⟨_, member, rfl⟩)

/-- Without a conversion under way there is nothing to say about one. -/
theorem not_converting_iff (accounted : pipeline.Accounted) : ¬ pipeline.Converting ↔
    pipeline.conversions.current = none
      ∧ ∀ derived, .converted pipeline.conversions.ticket derived ∉ pipeline.completions := by
  constructor
  · intro notConverting
    constructor
    · by_contra busy
      obtain ⟨work, current⟩ := Option.ne_none_iff_exists'.mp busy
      exact notConverting (converting_iff.mpr
        (.inl ⟨work, current, accounted.conversions.current work current⟩))
    · intro derived member
      exact notConverting (converting_iff.mpr (.inr (List.mem_filterMap.mpr ⟨_, member, rfl⟩)))
  · rintro ⟨idle, silent⟩ converting
    rcases converting_iff.mp converting with ⟨work, current, _⟩ | reported
    · rw [idle] at current
      cases current
    · obtain ⟨completion, member, ticket⟩ := List.mem_filterMap.mp reported
      cases completion with
      | converted _ derived =>
          cases ticket
          exact silent derived member
      | limitsLoaded _ | bonusLoaded _ _ => cases ticket

/-! ## Background turns -/

/-- Background tasks keep the story of the derived side. -/
theorem Converted.backgroundStep {turn : Turn}
    (converted : Converted settings past pipeline)
    (step : BackgroundStep pipeline turn next) :
    Converted settings (⟨pipeline, turn⟩ :: past) next := by
  have calm := calm_of_background step
  have settling := converted.settling
  have publishing := converted.publishing
  cases step with
  | askBonus _ _ | askLimits _ _ | send | close =>
      exact converted.keep calm rfl (fun _ => rfl) id (fun _ current => ⟨current, id⟩)
        (fun _ member => ⟨member, id⟩) settling publishing
  | endBonus _ _ | endLimits _ _ =>
      refine converted.keep calm rfl (fun _ => rfl) id (fun _ current => ⟨current, id⟩)
        (fun derived member => ⟨?_, id⟩) settling publishing
      rcases List.mem_append.mp member with queued | new
      · exact queued
      · cases List.mem_singleton.mp new
  | @askConversion work request resume call current asks =>
      have kept : Converted settings (⟨pipeline, .ask .conversion call⟩ :: past) pipeline :=
        converted.keep calm rfl (fun _ => rfl) id (fun _ current => ⟨current, id⟩)
          (fun _ member => ⟨member, id⟩) settling publishing
      refine ⟨kept.proper, fun asked same => ?_, kept.reported, kept.settling, kept.publishing,
        kept.settled⟩
      obtain rfl := Option.some.inj same
      refine (converted.underway work current).imp id fun under => ?_
      obtain ⟨begun, amount, selected, source, positive, since, follows⟩ := under
      exact ⟨begun, amount, selected, source, positive, .later calm since,
        follows_ask follows since calm asks (ask?_conversion current)⟩
  | @endConversion work result current ended =>
      have kept : Converted settings (⟨pipeline, .finish .conversion⟩ :: past) pipeline :=
        converted.keep calm rfl (fun _ => rfl) id (fun _ current => ⟨current, id⟩)
          (fun _ member => ⟨member, id⟩) settling publishing
      refine ⟨kept.proper, fun _ same => ?_, fun derived member => ?_, kept.settling,
        kept.publishing, kept.settled⟩
      · cases same
      · rcases List.mem_append.mp member with queued | new
        · exact kept.reported derived queued
        · cases result with
          | error _ => cases new
          | ok money =>
              obtain ⟨_, rfl⟩ := Completion.converted.inj (List.mem_singleton.mp new)
              exact (converted.underway work current).imp id fun under =>
                (under.derives ended).later calm
  | @hear call server =>
      have kept : Converted settings (⟨pipeline, .hear call server⟩ :: past) pipeline :=
        converted.keep calm rfl (fun _ => rfl) id (fun _ current => ⟨current, id⟩)
          (fun _ member => ⟨member, id⟩) settling publishing
      refine ⟨kept.proper, fun heard same => ?_, kept.reported, kept.settling, kept.publishing,
        kept.settled⟩
      obtain ⟨work, current, rfl⟩ := Option.map_eq_some_iff.mp same
      refine (converted.underway work current).imp id fun under => ?_
      obtain ⟨begun, amount, selected, source, positive, since, follows⟩ := under
      exact ⟨begun, amount, selected, source, positive, .later calm since,
        follows_hear follows calm⟩

/-! ## Steps of the pipeline's own task -/

/-- Whether a duty has to do with the amounts or with their conversion. -/
def convertsAmount : Duty → Bool
  | .publish (.amountEdited _) | .publish (.conversionSettled _) | .publish .currencySwitched
  | .cancelConversion | .convert | .settle _ => true
  | _ => false

/-- Any other duty leaves the amounts as they are. -/
theorem amounts_published (state : ScreenState) {duty : Duty}
    (other : convertsAmount duty = false) :
    (published state duty).entry.selected = state.entry.selected
      ∧ (∀ side, (published state duty).entry.side side = state.entry.side side)
      ∧ (published state duty).settled = state.settled := by
  cases duty with
  | publish action =>
      cases action with
      | amountEdited _ | conversionSettled _ | currencySwitched => cases other
      | setupLoaded _ _ => exact ⟨rfl, fun side => by cases side <;> rfl, rfl⟩
      | _ => exact ⟨rfl, fun _ => rfl, rfl⟩
  | _ => exact ⟨rfl, fun _ => rfl, rfl⟩

/-- So does every duty that has nothing to do with the amounts. -/
theorem Converted.performs_other {duty : Duty} {rest : List Duty} {now : Instant}
    {sink : Sink TaskName}
    (converted : Converted settings past pipeline)
    (first : pipeline.SettlesFirst)
    (head : pipeline.duties = duty :: rest)
    (done : Performed pipeline duty rest next)
    (other : convertsAmount duty = false) :
    Converted settings (⟨pipeline, .own now sink⟩ :: past) next := by
  have calm : Calm ⟨pipeline, .own now sink⟩ := by
    refine calm_of_head head (fun text same => ?_) fun same => ?_ <;>
      · rw [same] at other
        cases other
  have conversions : next.conversions = pipeline.conversions := by
    refine done.conversions (fun same => ?_) fun same => ?_ <;>
      · rw [same] at other
        cases other
  obtain ⟨selected, sides, settled⟩ := amounts_published pipeline.state other
  have passes : pipeline.Doomed → next.Doomed := by
    intro doomed
    refine doomed.passes head (fun duty member => ?_) (done.state ▸ settled) (fun same => ?_)
      fun same unsettled => ?_
    · rw [done.duties]
      exact List.mem_append_right _ member
    · rw [same] at other
      cases other
    · rw [done.duties, same]
      simp [added, unsettled]
  have derivesNothing : ∀ new ∈ next.duties, settles new = true → False := by
    intro new member leads
    rw [done.duties] at member
    rcases List.mem_append.mp member with addedNew | left
    · rcases settles_of_mem_added addedNew leads with ⟨rfl, _⟩ | ⟨_, rfl, _⟩ <;> cases other
    · have silent := first new (head ▸ left)
      rw [leads] at silent
      cases silent
  refine converted.keep calm ?_ ?_ ?_ ?_ ?_ ?_ ?_
  · rw [done.state, selected]
  · intro side
    rw [done.state, sides]
  · rw [done.state, settled]
    exact id
  · intro work current
    rw [conversions] at current
    exact ⟨current, passes⟩
  · intro derived member
    rw [conversions, done.completions] at member
    exact ⟨member, passes⟩
  · exact fun derived member => (derivesNothing _ member rfl).elim
  · exact fun derived member => (derivesNothing _ member rfl).elim

/-- A step of deriving the other side comes first, so none is left behind another duty. -/
theorem not_mem_rest_of_settles {duty new : Duty} {rest : List Duty}
    (first : pipeline.SettlesFirst)
    (head : pipeline.duties = duty :: rest)
    (leads : settles new = true) : new ∉ rest := by
  intro member
  have silent := first new (head ▸ member)
  rw [leads] at silent
  cases silent

/-- An edit is taken over: nothing is under way, and nothing is settled. -/
theorem converted_edited {text : String} {rest : List Duty} {now : Instant}
    {sink : Sink TaskName}
    (accounted : pipeline.Accounted)
    (first : pipeline.SettlesFirst)
    (head : pipeline.duties = .publish (.amountEdited text) :: rest)
    (accepted : (AmountValue.ofText? text).isSome)
    (notConverting : ¬ pipeline.Converting) :
    Converted settings (⟨pipeline, .own now sink⟩ :: past)
      { pipeline with state := pipeline.state.next (.amountEdited text), duties := rest } := by
  obtain ⟨idle, silent⟩ := (not_converting_iff accounted).mp notConverting
  obtain ⟨typed, value⟩ := Option.isSome_iff_exists.mp accepted
  refine ⟨fun side => ?_, fun work current => ?_,
    fun derived member => (silent derived member).elim,
    fun derived member => (not_mem_rest_of_settles first head rfl member).elim,
    fun derived member => (not_mem_rest_of_settles first head rfl member).elim, fun settled => ?_⟩
  · have typedProper := AmountValue.isProper_of_ofText? value
    have unknownProper : AmountValue.unknown.IsProper := fun _ same => by cases same
    simp only [ScreenState.next, value]
    cases pipeline.state.entry.selected <;> cases side <;> assumption
  · rw [idle] at current
    cases current
  · simp only [ScreenState.next, value] at settled
    cases settled

/-- The sides are switched.  Before the amount has settled, that dooms the conversion. -/
theorem Converted.switched {rest : List Duty} {now : Instant} {sink : Sink TaskName}
    (converted : Converted settings past pipeline)
    (accounted : pipeline.Accounted)
    (first : pipeline.SettlesFirst)
    (head : pipeline.duties = .publish .currencySwitched :: rest)
    (rearms : .rearm ∈ pipeline.duties)
    (unsettled : pipeline.Converting → pipeline.state.settled = false) :
    Converted settings (⟨pipeline, .own now sink⟩ :: past)
      { pipeline with state := pipeline.state.next .currencySwitched, duties := rest } := by
  have rearmsLater : .rearm ∈ rest := by
    rw [head] at rearms
    rcases List.mem_cons.mp rearms with same | later
    · cases same
    · exact later
  have proper : ∀ side, ((pipeline.state.next .currencySwitched).entry.side side).IsProper :=
    fun side => by cases side with
      | fiat => exact converted.proper .fiat
      | token => exact converted.proper .token
  have settling : ∀ derived, .settle derived ∉ rest := fun derived =>
    not_mem_rest_of_settles first head rfl
  have publishing : ∀ derived, .publish (.conversionSettled derived) ∉ rest := fun derived =>
    not_mem_rest_of_settles first head rfl
  cases settled : pipeline.state.settled with
  | false =>
      refine ⟨proper, fun _ _ => .inl (.inr ⟨rearmsLater, settled⟩),
        fun _ _ => .inl (.inr ⟨rearmsLater, settled⟩),
        fun derived member => (settling derived member).elim,
        fun derived member => (publishing derived member).elim, fun still => ?_⟩
      exact Bool.noConfusion (settled.symm.trans still)
  | true =>
      have notConverting : ¬ pipeline.Converting := fun converting =>
        Bool.noConfusion ((unsettled converting).symm.trans settled)
      obtain ⟨idle, silent⟩ := (not_converting_iff accounted).mp notConverting
      refine ⟨proper, fun work current => ?_, fun derived member => (silent derived member).elim,
        fun derived member => (settling derived member).elim,
        fun derived member => (publishing derived member).elim, fun _ => ?_⟩
      · rw [idle] at current
        cases current
      · have calm : Calm ⟨pipeline, .own now sink⟩ := calm_of_head head (by simp) fun _ => settled
        exact (converted.settled settled).later calm settled rfl fun side => by cases side <;> rfl

/-- What has been derived is taken over: the amount is settled from now on. -/
theorem Converted.settles {derived : AmountValue} {rest : List Duty} {now : Instant}
    {sink : Sink TaskName}
    (converted : Converted settings past pipeline)
    (accounted : pipeline.Accounted)
    (first : pipeline.SettlesFirst)
    (head : pipeline.duties = .publish (.conversionSettled derived) :: rest)
    (notConverting : ¬ pipeline.Converting) :
    Converted settings (⟨pipeline, .own now sink⟩ :: past)
      { pipeline with
        state := pipeline.state.next (.conversionSettled derived)
        duties := rest } := by
  obtain ⟨idle, silent⟩ := (not_converting_iff accounted).mp notConverting
  have derives := converted.publishing derived (head ▸ List.mem_cons_self)
  refine ⟨fun side => ?_, fun work current => ?_,
    fun other member => (silent other member).elim,
    fun other member => (not_mem_rest_of_settles first head rfl member).elim,
    fun other member => (not_mem_rest_of_settles first head rfl member).elim, fun _ => ?_⟩
  · by_cases same : side = pipeline.state.entry.selected.other
    · rw [same]
      simp only [ScreenState.next, AmountEntry.side_withSide_self]
      exact derives.isProper
    · have selected : side = pipeline.state.entry.selected := by
        cases side <;> cases chosen : pipeline.state.entry.selected <;>
          simp [chosen, Side.other] at same ⊢
      rw [selected]
      simp only [ScreenState.next, AmountEntry.side_withSide_opposite]
      exact converted.proper _
  · rw [idle] at current
    cases current
  · refine ⟨pipeline.state.entry.selected, .now ⟨⟨⟨now, sink, rfl⟩, rest, ?_⟩, rfl, ?_, ?_⟩⟩
    · simp only [ScreenState.next, AmountEntry.side_withSide_self]
      exact head
    · simp only [ScreenState.next, AmountEntry.side_withSide_opposite]
      rfl
    · simp only [ScreenState.next, AmountEntry.side_withSide_opposite,
        AmountEntry.side_withSide_self]
      exact derives

/-- Cancelling drops the conversion under way and keeps the story. -/
theorem Converted.cancels {rest : List Duty} {now : Instant} {sink : Sink TaskName}
    (converted : Converted settings past pipeline)
    (accounted : pipeline.Accounted)
    (first : pipeline.SettlesFirst)
    (head : pipeline.duties = .cancelConversion :: rest) :
    Converted settings (⟨pipeline, .own now sink⟩ :: past)
      { pipeline with conversions := pipeline.conversions.cancel, duties := rest } := by
  refine converted.keep (calm_of_head head (by simp) (by simp)) rfl (fun _ => rfl) id
    (fun work current => ?_)
    (fun derived member => (accounted.not_reported_cancel derived member).elim)
    (fun derived member => (not_mem_rest_of_settles first head rfl member).elim)
    (fun derived member => (not_mem_rest_of_settles first head rfl member).elim)
  cases current

/-- The amount is derived at once, or its conversion begins. -/
theorem Converted.converts {rest : List Duty} {now : Instant} {sink : Sink TaskName}
    (converted : Converted settings past pipeline)
    (accounted : pipeline.Accounted)
    (first : pipeline.SettlesFirst)
    (head : pipeline.duties = .convert :: rest)
    (awaits : pipeline.AwaitsDerived) :
    Converted settings (⟨pipeline, .own now sink⟩ :: past)
      (({ pipeline with duties := rest } : Pipeline).perform settings now .convert) := by
  obtain ⟨idle, silent⟩ := (not_converting_iff accounted).mp awaits.notConverting
  have calm : Calm ⟨pipeline, .own now sink⟩ := calm_of_head head (by simp) (by simp)
  -- Without a conversion all that is new is the next duty.
  have atOnce : ∀ derived,
      Derives settings past pipeline.state.entry.selected pipeline.state.entry.source derived →
        Converted settings (⟨pipeline, .own now sink⟩ :: past)
          { pipeline with duties := .settle derived :: rest } := by
    intro derived derives
    refine converted.keep calm rfl (fun _ => rfl) id (fun work current => ?_)
      (fun other member => (silent other member).elim) (fun other member => ?_)
      (fun other member => ?_)
    · rw [idle] at current
      cases current
    · rcases List.mem_cons.mp member with same | left
      · cases same
        exact derives
      · exact (not_mem_rest_of_settles first head rfl left).elim
    · rcases List.mem_cons.mp member with same | left
      · cases same
      · exact (not_mem_rest_of_settles first head rfl left).elim
  cases source : pipeline.state.entry.source with
  | unknown =>
      simp only [perform, source]
      exact atOnce .unknown (by rw [source]; exact .unknown)
  | zero =>
      simp only [perform, source]
      exact atOnce .zero (by rw [source]; exact .zero)
  | value amount =>
      simp only [perform, source]
      split
      · next positive =>
          have begins : BeginsConversion pipeline.state.entry amount
              ⟨pipeline, .own now sink⟩ :=
            ⟨⟨⟨now, sink, rfl⟩, rest, head⟩, rfl, source, positive⟩
          refine ⟨converted.proper, fun work current => .inr ?_, fun derived member => ?_,
            fun derived member => (not_mem_rest_of_settles first head rfl member).elim,
            fun derived member => (not_mem_rest_of_settles first head rfl member).elim,
            fun settled => ?_⟩
          · obtain rfl := Option.some.inj current
            exact ⟨pipeline.state.entry, amount, rfl, source, positive, .now begins,
              Exchange.Follows.ready _⟩
          · exact (accounted.not_reported_cancel derived member).elim
          · exact Bool.noConfusion (awaits.unsettled.symm.trans settled)
      · next notPositive =>
          have nonzero : amount.isZero = false := converted.proper _ amount source
          have below := Decimal.negative_of_not_positive nonzero notPositive
          exact atOnce .unknown (by rw [source]; exact .negative below)

/-- A derived amount that is taken over carries its story on. -/
theorem Converted.takesOver {derived : AmountValue} {rest : List Duty} {now : Instant}
    {sink : Sink TaskName}
    (converted : Converted settings past pipeline)
    (accounted : pipeline.Accounted)
    (first : pipeline.SettlesFirst)
    (head : pipeline.duties = .settle derived :: rest)
    (notConverting : ¬ pipeline.Converting) :
    Converted settings (⟨pipeline, .own now sink⟩ :: past)
      { pipeline with
        duties :=
          .publish (.conversionSettled derived) :: .announceAmounts :: .validate :: rest } := by
  obtain ⟨idle, silent⟩ := (not_converting_iff accounted).mp notConverting
  refine converted.keep (calm_of_head head (by simp) (by simp)) rfl (fun _ => rfl) id
    (fun work current => ?_) (fun other member => (silent other member).elim)
    (fun other member => ?_) (fun other member => ?_)
  · rw [idle] at current
    cases current
  · simp only [List.mem_cons, reduceCtorEq, false_or] at member
    exact (not_mem_rest_of_settles first head rfl member).elim
  · simp only [List.mem_cons, Duty.publish.injEq, ScreenAction.conversionSettled.injEq,
      reduceCtorEq, false_or] at member
    rcases member with rfl | member
    · exact converted.settling _ (head ▸ List.mem_cons_self)
    · exact (not_mem_rest_of_settles first head rfl member).elim

/-- Performing any duty keeps the story of the derived side. -/
theorem Converted.performs {duty : Duty} {rest : List Duty} {now : Instant} {sink : Sink TaskName}
    (converted : Converted settings past pipeline)
    (accounted : pipeline.Accounted)
    (first : pipeline.SettlesFirst)
    (head : pipeline.duties = duty :: rest)
    (before : Before False duty pipeline) :
    Converted settings (⟨pipeline, .own now sink⟩ :: past)
      (({ pipeline with duties := rest } : Pipeline).perform settings now duty) := by
  cases concerns : convertsAmount duty with
  | false => exact converted.performs_other first head (performed settings now _ _ _) concerns
  | true =>
      cases duty with
      | publish action =>
          cases action with
          | amountEdited text =>
              exact converted_edited accounted first head before.1 before.2.1
          | currencySwitched =>
              exact converted.switched accounted first head before.1 before.2
          | conversionSettled derived =>
              exact converted.settles accounted first head before.notConverting
          | _ => cases concerns
      | cancelConversion => exact converted.cancels accounted first head
      | convert => exact converted.converts accounted first head before
      | settle derived => exact converted.takesOver accounted first head before.notConverting
      | _ => cases concerns

/-- Every step of the pipeline's own task keeps the story of the derived side. -/
theorem Converted.ownStep {now : Instant} {sink : Sink TaskName} {told : List Effect}
    (converted : Converted settings past pipeline)
    (accounted : pipeline.Accounted)
    (first : pipeline.SettlesFirst)
    (ready : (agreement False).Ready settings told pipeline)
    (step : OwnStep settings now sink pipeline next) :
    Converted settings (⟨pipeline, .own now sink⟩ :: past) next := by
  cases step with
  | stops free _ =>
      refine converted.keep (calm_of_free free) rfl (fun _ => rfl) id (fun _ current => ?_)
        (fun derived member => (accounted.not_reported_cancel derived member).elim)
        converted.settling converted.publishing
      cases current
  | input free _ =>
      have doomed : pipeline.Doomed → False := not_doomed_of_free free
      refine converted.keep (calm_of_free free) rfl (fun _ => rfl) id
        (fun _ current => ⟨current, fun so => (doomed so).elim⟩)
        (fun _ member => ⟨member, fun so => (doomed so).elim⟩)
        (fun _ member => ?_) fun _ member => ?_ <;>
        cases not_settles_of_mem_inputDuties member
  | deadline caughtUp _ =>
      have doomed : pipeline.Doomed → False := not_doomed_of_free caughtUp.1
      refine converted.keep (calm_of_free caughtUp.1) rfl (fun _ => rfl) id
        (fun _ current => ⟨current, fun so => (doomed so).elim⟩)
        (fun _ member => ⟨member, fun so => (doomed so).elim⟩)
        (fun _ member => ?_) fun _ member => ?_ <;>
        cases List.mem_singleton.mp member
  | @completion completion rest caughtUp queued =>
      have doomed : pipeline.Doomed → False := not_doomed_of_free caughtUp.1
      refine converted.keep (calm_of_free caughtUp.1) rfl (fun _ => rfl) id
        (fun _ current => ⟨current, fun so => (doomed so).elim⟩)
        (fun _ member => ⟨queued ▸ List.mem_cons_of_mem _ member, fun so => (doomed so).elim⟩)
        (fun derived member => ?_) fun derived member => ?_
      · obtain ⟨ticket, rfl, latest⟩ := settle_mem_completionDuties member
        subst latest
        exact (converted.reported derived (queued ▸ List.mem_cons_self)).resolve_left doomed
      · rcases publish_mem_completionDuties member with ⟨_, _, same⟩ | ⟨_, _, _, _, same⟩ <;>
          cases same
  | waits head _ =>
      exact converted.keep (calm_of_head head (by simp) (by simp)) rfl (fun _ => rfl) id
        (fun _ current => ⟨current, id⟩) (fun _ member => ⟨member, id⟩) converted.settling
        converted.publishing
  | @tells effect rest head _ =>
      have passes : pipeline.Doomed → Doomed { pipeline with duties := rest } := fun doomed =>
        doomed.passes head (fun _ member => member) rfl (by simp) (by simp)
      exact converted.keep (calm_of_head head (by simp) (by simp)) rfl (fun _ => rfl) id
        (fun _ current => ⟨current, passes⟩) (fun _ member => ⟨member, passes⟩)
        (fun derived member => (not_mem_rest_of_settles first head rfl member).elim)
        (fun derived member => (not_mem_rest_of_settles first head rfl member).elim)
  | performs head _ => exact converted.performs accounted first head (ready.before head)

/-- **Every derived amount, settled or on its way, comes from where it should.** -/
theorem converted_of_reaches
    (reached : Reaches (Pipeline.turn settings) (start settings) past pipeline) :
    Converted settings past pipeline := by
  induction reached with
  | start => exact converted_start
  | step earlier moved ih =>
      rcases step_of_turn moved with ⟨now, sink, rfl, running, step⟩ | step
      · exact ih.ownStep (accounted_of_reaches earlier) (settlesFirst_of_reaches earlier)
          (ready_of_anyOrder earlier running) step
      · exact ih.backgroundStep step

end Pipeline

end WalletTopUp
