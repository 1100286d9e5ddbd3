import WalletTopUp.Proofs.Payment.Reading
import WalletTopUp.Proofs.Service.Course

/-!
# The fetches of a watch

Every tick of a watch begins a fetch, and there is no other fetch than the one that the last tick
began (`WatchRun.isLastFetch_of_reaches`): it has made all requests since that tick, no other call
is open, and it has heard no answer that was meant for a fetch before it.  Two ticks lie a period
apart, but for what a timer forgives, and only a fetch without a result gives way to a new one.
-/

namespace WalletTopUp

namespace WatchRun

/-- What has happened to a watch, the latest first. -/
abbrev History : Type := List (Moment WatchRun Move)

variable {settings : Watch.Settings} {run next : WatchRun} {begun : Instant} {past later : History}
  {moment tick : Moment WatchRun Move} {exchange : Exchange FetchResult}

/-! ## Ticks -/

/-- In a moment a tick begins a fetch. -/
def Ticks (settings : Watch.Settings) (moment : Moment WatchRun Move) : Prop :=
  moment.event = .happen (.step ()) ∧ ∃ ticker, moment.before.watch.ticker = some ticker
    ∧ (system settings).step () moment.before
      = some { moment.before with
          watch := moment.before.watch.refetch settings ticker moment.before.now }

/-- A tick comes when it is due, and only to a watch without a result. -/
theorem Ticks.due (ticks : Ticks settings moment) :
    ∃ ticker, moment.before.watch.ticker = some ticker ∧ ticker.next ≤ moment.before.now
      ∧ moment.before.fetched? = none ∧ moment.before.watch.finished = false := by
  obtain ⟨_, ticker, timer, stepped⟩ := ticks
  obtain ⟨reading, turn⟩ := turn_of_step stepped
  have begins : (moment.before.watch.refetch settings ticker moment.before.now).inFlight
      = some (.ready settings.fetch) := rfl
  -- Among the turns of a watch a tick is the one that begins a fetch, makes no call and reads on.
  generalize same : ({ moment.before with
    watch := moment.before.watch.refetch settings ticker moment.before.now } : WatchRun) = after
    at turn
  cases turn with
  | asks _ _ =>
      have calls := congrArg (fun run => run.calls.length) same
      simp at calls
  | starts _ fresh =>
      rw [fresh] at timer
      cases timer
  | ticks unfinished timer due unanswered => exact ⟨_, timer, due, unanswered, unfinished⟩
  | passes _ _ _ =>
      have flying := congrArg (fun run => run.watch.inFlight) same
      rw [begins] at flying
      cases flying
  | delivers _ _ _ =>
      have flying := congrArg (fun run => run.watch.inFlight) same
      rw [begins] at flying
      cases flying
  | ends _ =>
      have read := congrArg WatchRun.reading same
      rw [show _ = moment.before.reading from rfl, reading] at read
      cases read

/-! ## The last fetch -/

/-- The answer that the fetch in flight hears in a moment. -/
def answered? (moment : Moment WatchRun Move) : Option Answered :=
  match moment.event with
  | .happen (.answer call server) =>
    moment.before.watch.inFlight.bind (Exchange.answered? call server)
  | _ => none

/-- The answers that have been heard, in order. -/
def heard (past : History) : List Answered := (past.filterMap answered?).reverse

/-- An exchange is the fetch that a tick began: all calls since the tick are its own, and it has
heard the answers since the tick, and no others. -/
structure IsFetchOf (settings : Watch.Settings) (tick : Moment WatchRun Move) (later : History)
    (run : WatchRun) (exchange : Exchange FetchResult) : Prop where
  ticks : Ticks settings tick
  last : ∀ moment ∈ later, ¬ Ticks settings moment
  course : ∃ asked : List Call, run.calls = tick.before.calls ++ asked
    ∧ settings.fetch.Course (asked.map Call.request) (heard later) exchange
  own : ∀ call ∈ exchange.openCalls, tick.before.calls.length ≤ call.1

/-- An exchange is the fetch that the last tick began. -/
def IsLastFetch (settings : Watch.Settings) (past : History) (run : WatchRun)
    (exchange : Exchange FetchResult) : Prop :=
  ∃ later tick earlier, past = later ++ tick :: earlier
    ∧ IsFetchOf settings tick later run exchange

/-- A fetch stays the last one as long as neither it nor its calls change. -/
theorem IsLastFetch.rest (fetch : IsLastFetch settings past run exchange)
    (calls : next.calls = run.calls) (tickless : ¬ Ticks settings moment)
    (unanswered : answered? moment = none) :
    IsLastFetch settings (moment :: past) next exchange := by
  obtain ⟨later, tick, earlier, rfl, fetch⟩ := fetch
  refine ⟨moment :: later, tick, earlier, rfl, fetch.ticks,
    List.forall_mem_cons.mpr ⟨tickless, fetch.last⟩, ?_, fetch.own⟩
  rw [calls, heard, List.filterMap_cons_none unanswered]
  exact fetch.course

/-- Only a step of the watch ticks. -/
theorem not_ticks_of_event (other : moment.event ≠ .happen (.step ())) : ¬ Ticks settings moment :=
  fun ticks => other ticks.1

/-- A moment adds the answer it heard, if it heard one. -/
theorem heard_cons (moment : Moment WatchRun Move) (past : History) :
    heard (moment :: past) = heard past ++ (answered? moment).toList :=
  reverse_filterMap_cons answered? moment past

/-- The last fetch stays so when it puts its next request. -/
theorem IsLastFetch.ask {request : Request} {resume : CallId → Exchange FetchResult}
    (fetch : IsLastFetch settings past run exchange)
    (asks : exchange.ask? = some (request, resume))
    (stepped : (system settings).step () run = some { run with
      watch := { run.watch with inFlight := some (resume run.calls.length) }
      calls := run.calls ++ [⟨run.now, request⟩] }) :
    IsLastFetch settings (⟨run, .happen (.step ())⟩ :: past)
      { run with
        watch := { run.watch with inFlight := some (resume run.calls.length) }
        calls := run.calls ++ [⟨run.now, request⟩] }
      (resume run.calls.length) := by
  obtain ⟨later, tick, earlier, rfl, fetch⟩ := fetch
  obtain ⟨asked, calls, course⟩ := fetch.course
  have tickless : ¬ Ticks settings ⟨run, .happen (.step ())⟩ := by
    rintro ⟨_, _, _, begins⟩
    have same := congrArg (fun run => run.calls.length)
      (Option.some.inj (stepped.symm.trans begins))
    simp at same
  refine ⟨_ :: later, tick, earlier, rfl, fetch.ticks,
    List.forall_mem_cons.mpr ⟨tickless, fetch.last⟩, ⟨asked ++ [⟨run.now, request⟩], ?_, ?_⟩, ?_⟩
  · rw [calls, List.append_assoc]
  · rw [List.map_append, heard_cons]
    exact (List.append_nil (heard later)).symm ▸ course.ask asks _
  · rw [Exchange.openCalls_ask asks]
    refine fun call member => (List.mem_append.mp member).elim (fetch.own call) fun new => ?_
    rw [List.mem_singleton.mp new, calls, List.length_append]
    exact Nat.le_add_right _ _

/-- The last fetch stays so when it hears an answer. -/
theorem IsLastFetch.hear (fetch : IsLastFetch settings past run exchange)
    (flying : run.watch.inFlight = some exchange) (call : CallId) (server : Server) :
    IsLastFetch settings (⟨run, .happen (.answer call server)⟩ :: past)
      { run with watch := run.watch.hear call server } (exchange.hear call server) := by
  obtain ⟨later, tick, earlier, rfl, fetch⟩ := fetch
  obtain ⟨asked, calls, course⟩ := fetch.course
  refine ⟨_ :: later, tick, earlier, rfl, fetch.ticks,
    List.forall_mem_cons.mpr ⟨not_ticks_of_event nofun, fetch.last⟩, ⟨asked, calls, ?_⟩,
    fun call' member => fetch.own call' (exchange.openCalls_hear call server member)⟩
  have answered : answered? ⟨run, .happen (.answer call server)⟩
      = exchange.answered? call server := by
    rw [answered?, flying]
    rfl
  rw [heard_cons, answered]
  exact course.hear call server

/-- **There is one fetch at a time.**  The fetch in flight is the one that the last tick began. -/
theorem isLastFetch_of_reaches (reached : Reaches (move settings) { now := begun } past run)
    (flying : run.watch.inFlight = some exchange) : IsLastFetch settings past run exchange := by
  induction reached generalizing exchange with
  | start => cases flying
  | @step past middle next move reached moved ih =>
      have sound := sound_of_reaches reached
      cases move with
      | read =>
          obtain rfl := Option.some.inj moved
          exact (ih flying).rest rfl (not_ticks_of_event nofun) rfl
      | leave =>
          obtain rfl := Option.some.inj moved
          exact (ih flying).rest rfl (not_ticks_of_event nofun) rfl
      | happen move =>
          cases move with
          | answer call server =>
              obtain rfl := Option.some.inj moved
              obtain ⟨earlier, flies, rfl⟩ := Option.map_eq_some_iff.mp flying
              exact (ih flies).hear flies call server
          | advance milliseconds =>
              obtain rfl := Option.some.inj moved
              exact (ih flying).rest rfl (not_ticks_of_event nofun) rfl
          | step task =>
              have turn := (turn_of_step moved).2
              cases turn with
              | asks flies asks =>
                  obtain rfl := Option.some.inj flying
                  exact (ih flies).ask asks moved
              | starts _ fresh =>
                  obtain ⟨_, timer⟩ := sound.timed exchange flying
                  rw [fresh] at timer
                  cases timer
              | ticks _ timer _ _ =>
                  -- The fetch in flight is the one of this tick, and nothing has happened since.
                  obtain rfl := Option.some.inj flying
                  exact ⟨[], _, past, rfl, ⟨rfl, _, timer, moved⟩, List.forall_mem_nil _,
                    ⟨[], (List.append_nil _).symm, .here⟩, List.forall_mem_nil _⟩
              | passes _ _ _ => cases flying
              | delivers _ _ _ => cases flying
              | ends finished =>
                  rw [sound.grounded finished] at flying
                  cases flying

/-! ## The time between ticks -/

/-- A tick sets the timer to a period after the instant at which it was due, or after now if that is
more than the tolerance ago. -/
theorem next_tick (ticker : Ticker) {now : Instant} (due : ticker.next ≤ now) :
    ticker.next + ticker.period ≤ (ticker.tick now).next
      ∧ now + ticker.period ≤ (ticker.tick now).next + Ticker.tolerance
      ∧ (ticker.tick now).next ≤ now + ticker.period := by
  have renewed : ∀ next now period tolerance : Nat, next ≤ now →
      next + period ≤ (if next + tolerance < now then now else next) + period
        ∧ now + period ≤ (if next + tolerance < now then now else next) + period + tolerance
        ∧ (if next + tolerance < now then now else next) + period ≤ now + period := by
    intro next now period tolerance due
    split <;> omega
  exact renewed _ _ _ _ due

/-- What the next tick has to do with the ticks so far. -/
structure Timed (settings : Watch.Settings) (past : History) (run : WatchRun) (ticker : Ticker) :
    Prop where
  /-- It is not due before a period has passed, but for what the timer forgives. -/
  spaced : ∀ tick ∈ past, Ticks settings tick →
    tick.before.now + settings.interval ≤ ticker.next + Ticker.tolerance
  /-- It is due once a period has passed, or at once if there has been none. -/
  punctual : (∃ tick ∈ past, Ticks settings tick
      ∧ ticker.next ≤ tick.before.now + settings.interval)
    ∨ (∀ tick ∈ past, ¬ Ticks settings tick) ∧ ticker.next ≤ run.now

/-- A moment without a tick keeps the ticker in time. -/
theorem Timed.rest {ticker : Ticker} (timed : Timed settings past run ticker)
    (tickless : ¬ Ticks settings moment) (later : run.now ≤ next.now) :
    Timed settings (moment :: past) next ticker where
  spaced := fun tick member ticks => by
    rcases List.mem_cons.mp member with rfl | member
    · exact absurd ticks tickless
    · exact timed.spaced tick member ticks
  punctual := timed.punctual.imp
    (fun ⟨tick, member, ticks⟩ => ⟨tick, List.mem_cons_of_mem _ member, ticks⟩)
    fun ⟨tickfree, due⟩ =>
      ⟨List.forall_mem_cons.mpr ⟨tickless, tickfree⟩, Nat.le_trans due later⟩

/-- A tick sets the timer to the next one. -/
theorem Timed.renew {ticker : Ticker} (timed : Timed settings past run ticker)
    (period : ticker.period = settings.interval)
    (due : ticker.next ≤ run.now)
    (ticks : Ticks settings ⟨run, .happen (.step ())⟩) :
    Timed settings (⟨run, .happen (.step ())⟩ :: past)
      { run with watch := run.watch.refetch settings ticker run.now } (ticker.tick run.now) := by
  obtain ⟨fromNext, fromNow, soon⟩ := next_tick ticker due
  rw [period] at fromNext fromNow soon
  refine ⟨fun tick member before => ?_, .inl ⟨_, List.mem_cons_self, ticks, soon⟩⟩
  rcases List.mem_cons.mp member with rfl | member
  · exact fromNow
  · have kept : ticker.next ≤ (ticker.tick run.now).next :=
      Nat.le_trans (Nat.le_add_right _ _) fromNext
    exact Nat.le_trans (timed.spaced tick member before) (Nat.add_le_add_right kept _)

/-- What the timer of a watch says of the ticks so far. -/
structure Paced (settings : Watch.Settings) (past : History) (run : WatchRun) : Prop where
  timed : ∀ ticker, run.watch.ticker = some ticker → Timed settings past run ticker
  untimed : run.watch.ticker = none → run.watch.finished = false →
    ∀ tick ∈ past, ¬ Ticks settings tick

/-- A moment without a tick keeps the watch paced. -/
theorem Paced.rest (paced : Paced settings past run) (tickless : ¬ Ticks settings moment)
    (ticker : next.watch.ticker = run.watch.ticker)
    (finished : next.watch.finished = run.watch.finished)
    (later : run.now ≤ next.now) : Paced settings (moment :: past) next where
  timed := fun _ timer => (paced.timed _ (ticker ▸ timer)).rest tickless later
  untimed := fun none unfinished => List.forall_mem_cons.mpr
    ⟨tickless, paced.untimed (ticker ▸ none) (finished ▸ unfinished)⟩

/-- A turn of the watch keeps it paced: this is where it ticks. -/
theorem Paced.turn (paced : Paced settings past run) (sound : Sound settings run)
    (stepped : (system settings).step () run = some next) (turn : Turn settings run next) :
    Paced settings (⟨run, .happen (.step ())⟩ :: past) next := by
  -- A tick renews what is known of the timer; every other turn only adds a moment without a tick.
  by_cases ticks : Ticks settings ⟨run, .happen (.step ())⟩
  · obtain ⟨ticker, timer, due, _, _⟩ := ticks.due
    obtain ⟨_, _, timer', stepped'⟩ := id ticks
    obtain rfl := Option.some.inj (timer.symm.trans timer')
    obtain rfl := Option.some.inj (stepped'.symm.trans stepped)
    refine ⟨fun next set => ?_, nofun⟩
    obtain rfl := Option.some.inj set
    exact (paced.timed ticker timer).renew (sound.period ticker timer) due ticks
  · cases turn with
    | asks _ _ => exact paced.rest ticks rfl rfl (Nat.le_refl _)
    | starts unfinished fresh =>
        have tickless : ∀ tick ∈ ⟨run, .happen (.step ())⟩ :: past, ¬ Ticks settings tick :=
          List.forall_mem_cons.mpr ⟨ticks, paced.untimed fresh unfinished⟩
        refine ⟨fun ticker started => ?_, nofun⟩
        obtain rfl := Option.some.inj started
        exact ⟨fun tick member before => absurd before (tickless tick member),
          .inr ⟨tickless, Nat.le_refl _⟩⟩
    | ticks unfinished timer due unanswered => exact absurd ⟨rfl, _, timer, stepped⟩ ticks
    | passes _ _ _ => exact paced.rest ticks rfl rfl (Nat.le_refl _)
    | @delivers update unfinished fetched _ =>
        refine ⟨fun ticker timer => ?_, fun none unfinished => ?_⟩
        · dsimp only at timer
          split at timer
          · cases timer
          · exact (paced.timed ticker timer).rest ticks (Nat.le_refl _)
        · obtain ⟨exchange, flying, _⟩ := Option.bind_eq_some_iff.mp fetched
          obtain ⟨_, timer⟩ := sound.timed exchange flying
          dsimp only at none unfinished
          rw [unfinished, timer] at none
          cases none
    | ends _ => exact paced.rest ticks rfl rfl (Nat.le_refl _)

/-- Every run of a watch is paced. -/
theorem paced_of_reaches (reached : Reaches (move settings) { now := begun } past run) :
    Paced settings past run := by
  induction reached with
  | start => exact ⟨fun _ => nofun, fun _ _ => List.forall_mem_nil _⟩
  | @step past middle next move reached moved ih =>
      cases move with
      | read =>
          obtain rfl := Option.some.inj moved
          exact ih.rest (not_ticks_of_event nofun) rfl rfl (Nat.le_refl _)
      | leave =>
          obtain rfl := Option.some.inj moved
          exact ih.rest (not_ticks_of_event nofun) rfl rfl (Nat.le_refl _)
      | happen move =>
          cases move with
          | step _ => exact ih.turn (sound_of_reaches reached) moved (turn_of_step moved).2
          | answer call server =>
              obtain rfl := Option.some.inj moved
              exact ih.rest (not_ticks_of_event nofun) rfl rfl (Nat.le_refl _)
          | advance milliseconds =>
              obtain rfl := Option.some.inj moved
              exact ih.rest (not_ticks_of_event nofun) rfl rfl (Nat.le_add_right _ _)

/-- **Ticks lie a period apart**, but for what the timer forgives, and only a fetch without a result
gives way to the next one. -/
theorem ticks_spaced {earlier : History}
    (reached : Reaches (move settings) { now := begun } past run)
    (suffix : tick :: earlier <:+ past) (ticks : Ticks settings tick) :
    tick.before.fetched? = none ∧ ∀ before ∈ earlier, Ticks settings before →
      before.before.now + settings.interval ≤ tick.before.now + Ticker.tolerance := by
  obtain ⟨ticker, timer, due, unanswered, _⟩ := ticks.due
  refine ⟨unanswered, fun before member earlierTicks => ?_⟩
  have paced := paced_of_reaches (reached.of_suffix suffix)
  have spaced := (paced.timed ticker timer).spaced before member earlierTicks
  exact Nat.le_trans spaced (Nat.add_le_add_right due _)

end WatchRun

end WalletTopUp
