import WalletTopUp.Payment.Submission
import WalletTopUp.Proofs.Payment.Fetches
import WalletTopUp.Proofs.Payment.Updates

/-!
# What the reader of a watch hears

Whatever the services answer and whenever, and whenever the watch is read, the updates that have
been read are those that the results of the fetches make, and each result is that of the fetch which
the last tick began.  After the first final status nothing more is read, asked or fetched
(`WatchRun.updates_faithful`).
-/

namespace WalletTopUp

namespace WatchRun

variable {settings : Watch.Settings} {run next : WatchRun} {begun : Instant} {past future : History}
  {moment : Moment WatchRun Move} {event : Move}

/-! ## Results and updates of a history -/

/-- The result with which the fetch in flight comes to its end in a moment. -/
def result? (settings : Watch.Settings) (moment : Moment WatchRun Move) : Option FetchResult :=
  match moment.before.fetched? with
  | some _ => none
  | none => (move settings moment.before moment.event).bind fetched?

/-- The results of all fetches that have come to their end, in order. -/
def results (settings : Watch.Settings) (past : History) : List FetchResult :=
  (past.filterMap (result? settings)).reverse

/-- The update that is read in a moment: a step ends the reading with it. -/
def update? (settings : Watch.Settings) (moment : Moment WatchRun Move) :
    Option TransactionUpdate :=
  match moment.event with
  | .happen (.step _) =>
    (move settings moment.before moment.event).bind fun after =>
      if after.reading then none else after.update
  | _ => none

/-- The updates that have been read, in order. -/
def updatesRead (settings : Watch.Settings) (past : History) : List TransactionUpdate :=
  (past.filterMap (update? settings)).reverse

/-- A moment adds the result it heard, if it heard one. -/
theorem results_cons (moment : Moment WatchRun Move) (past : History) :
    results settings (moment :: past)
      = results settings past ++ (result? settings moment).toList :=
  reverse_filterMap_cons (result? settings) moment past

/-- A moment adds the update it read, if it read one. -/
theorem updatesRead_cons (moment : Moment WatchRun Move) (past : History) :
    updatesRead settings (moment :: past)
      = updatesRead settings past ++ (update? settings moment).toList :=
  reverse_filterMap_cons (update? settings) moment past

/-- A result that is not taken is still there, or it has just come. -/
theorem results_of_kept (moved : move settings run event = some next)
    (kept : run.fetched? = none ∨ next.fetched? = run.fetched?) (taken : List FetchResult)
    (earlier : results settings past = taken ++ run.fetched?.toList) :
    results settings (⟨run, event⟩ :: past) = taken ++ next.fetched?.toList := by
  rw [results_cons, earlier, List.append_assoc]
  congr 1
  cases fetched : run.fetched? with
  | none => simp [result?, fetched, moved]
  | some result =>
      rcases kept with none | same
      · rw [fetched] at none
        cases none
      · simp [result?, fetched, same]

/-- A result that is taken makes place for the next one. -/
theorem results_of_taken (event : Move) {result : FetchResult}
    (fetched : run.fetched? = some result) {taken : List FetchResult}
    (earlier : results settings past = taken ++ run.fetched?.toList) :
    results settings (⟨run, event⟩ :: past) = taken ++ [result] := by
  have none : result? settings ⟨run, event⟩ = none := by rw [result?, fetched]
  rw [results_cons, none, earlier, fetched]
  exact List.append_nil _

/-! ## The invariant -/

/-- What the state of a watch says of what has been read. -/
structure Faithful (settings : Watch.Settings) (past : History) (run : WatchRun) : Prop where
  split : ∃ taken, results settings past = taken ++ run.fetched?.toList
    ∧ updatesRead settings past = settings.filter.updates taken
  last : run.watch.lastDelivered
    = (updatesRead settings past).getLast?.map TransactionUpdate.status
  closed : run.watch.finished = true
    ↔ ∃ update ∈ updatesRead settings past, update.status.isFinal = true
  ended : run.ended = true → run.watch.finished = true

/-- A move that reads nothing and leaves the deliveries as they are keeps the watch faithful. -/
theorem Faithful.rest (faithful : Faithful settings past run)
    (moved : move settings run event = some next)
    (unread : update? settings ⟨run, event⟩ = none)
    (kept : run.fetched? = none ∨ next.fetched? = run.fetched?)
    (last : next.watch.lastDelivered = run.watch.lastDelivered)
    (finished : next.watch.finished = run.watch.finished)
    (ended : next.ended = true → run.watch.finished = true) :
    Faithful settings (⟨run, event⟩ :: past) next := by
  have same : updatesRead settings (⟨run, event⟩ :: past) = updatesRead settings past := by
    rw [updatesRead_cons, unread]
    exact List.append_nil _
  obtain ⟨taken, results, updates⟩ := faithful.split
  refine ⟨⟨taken, results_of_kept moved kept taken results, same.trans updates⟩, ?_, ?_, ?_⟩
  · rw [same, last]
    exact faithful.last
  · rw [same, finished]
    exact faithful.closed
  · rw [finished]
    exact ended

/-- The news of a watch are those that do not repeat the update read last. -/
theorem Faithful.news_iff (faithful : Faithful settings past run) (update : TransactionUpdate) :
    IsNews settings run.watch update ↔ settings.filter.delivers update.status = true
      ∧ (updatesRead settings past).getLast?.map TransactionUpdate.status ≠ some update.status := by
  rw [IsNews, faithful.last]

/-- Until the watch is finished no update that was read is final. -/
theorem Faithful.unsettled (faithful : Faithful settings past run)
    (unfinished : run.watch.finished = false) :
    ∀ update ∈ updatesRead settings past, update.status.isFinal = false := by
  refine fun update member => Bool.eq_false_iff.mpr fun final => ?_
  rw [faithful.closed.mpr ⟨update, member, final⟩] at unfinished
  cases unfinished

/-- A result is passed over, as the updates have no place for it. -/
theorem Faithful.pass {result : FetchResult} (faithful : Faithful settings past run)
    (unread : update? settings ⟨run, event⟩ = none)
    (fetched : run.fetched? = some result)
    (old : ∀ update, result = .ok update → ¬ IsNews settings run.watch update) :
    Faithful settings (⟨run, event⟩ :: past)
      { run with watch := { run.watch with inFlight := none } } := by
  have same : updatesRead settings (⟨run, event⟩ :: past) = updatesRead settings past := by
    rw [updatesRead_cons, unread]
    exact List.append_nil _
  obtain ⟨taken, results, updates⟩ := faithful.split
  have grown := results_of_taken event fetched results
  refine ⟨⟨taken ++ [result], grown.trans (List.append_nil _).symm, ?_⟩, ?_, ?_, faithful.ended⟩
  · rw [same, updates, StatusFilter.updates_concat_of_passes]
    intro update succeeded wanted
    have repeated := mt (faithful.news_iff update).mpr (old update succeeded)
    rw [← updates]
    by_contra changed
    exact repeated ⟨wanted, changed⟩
  · rw [same]
    exact faithful.last
  · rw [same]
    exact faithful.closed

/-- An update is read that is the next one of the updates of all results. -/
theorem Faithful.deliver {update : TransactionUpdate} (faithful : Faithful settings past run)
    (read : update? settings ⟨run, event⟩ = some update)
    (unfinished : run.watch.finished = false)
    (fetched : run.fetched? = some (.ok update))
    (news : IsNews settings run.watch update)
    (grounded : next.fetched? = none)
    (last : next.watch.lastDelivered = some update.status)
    (finished : next.watch.finished = update.status.isFinal)
    (ended : next.ended = run.ended) :
    Faithful settings (⟨run, event⟩ :: past) next := by
  have more : updatesRead settings (⟨run, event⟩ :: past)
      = updatesRead settings past ++ [update] := by
    rw [updatesRead_cons, read]
    rfl
  obtain ⟨taken, results, updates⟩ := faithful.split
  obtain ⟨wanted, changed⟩ := (faithful.news_iff update).mp news
  have unsettled := faithful.unsettled unfinished
  have grown := results_of_taken event fetched results
  refine ⟨⟨taken ++ [.ok update], ?_, ?_⟩, ?_, ?_, fun read => ?_⟩
  · rw [grown, grounded]
    exact (List.append_nil _).symm
  · rw [updates] at unsettled changed
    rw [more, updates, StatusFilter.updates_concat_of_delivers unsettled wanted changed]
  · rw [more, last, List.getLast?_concat, Option.map_some]
  · rw [more, finished]
    refine ⟨fun final => ⟨update, by simp, final⟩, fun ⟨later, member, final⟩ => ?_⟩
    rcases List.mem_append.mp member with before | same
    · rw [unsettled later before] at final
      cases final
    · rw [List.mem_singleton.mp same] at final
      exact final
  · rw [faithful.ended (ended ▸ read)] at unfinished
    cases unfinished

/-- A turn of the reader keeps the watch faithful: this is where updates are read. -/
theorem Faithful.turn (faithful : Faithful settings past run) (sound : Sound settings run)
    (reading : run.reading = true)
    (stepped : (system settings).step () run = some next) (turn : Turn settings run next) :
    Faithful settings (⟨run, .happen (.step ())⟩ :: past) next := by
  have read : update? settings ⟨run, .happen (.step ())⟩
      = if next.reading then none else next.update := by
    change ((system settings).step () run).bind _ = _
    rw [stepped]
    rfl
  have goesOn : next.reading = run.reading → update? settings ⟨run, .happen (.step ())⟩ = none :=
    fun same => by rw [read, same, reading]; rfl
  cases turn with
  | asks flying asks =>
      have unanswered : run.fetched? = none := by
        rw [fetched?, flying]
        exact (Exchange.result?_ask asks 0).1
      exact faithful.rest stepped (goesOn rfl) (.inl unanswered) rfl rfl faithful.ended
  | starts _ _ => exact faithful.rest stepped (goesOn rfl) (.inr rfl) rfl rfl faithful.ended
  | ticks _ _ _ unanswered =>
      exact faithful.rest stepped (goesOn rfl) (.inl unanswered) rfl rfl faithful.ended
  | passes _ fetched old => exact faithful.pass (goesOn rfl) fetched old
  | delivers unfinished fetched news =>
      exact faithful.deliver read unfinished fetched news rfl rfl rfl rfl
  | ends finished =>
      have unread : update? settings ⟨run, .happen (.step ())⟩ = none :=
        read.trans (sound.unread reading)
      exact faithful.rest stepped unread (.inr rfl) rfl rfl fun _ => finished

/-- Every run of a watch is faithful to the results that were fetched. -/
theorem faithful_of_reaches (reached : Reaches (move settings) { now := begun } past run) :
    Faithful settings past run := by
  induction reached with
  | start => exact ⟨⟨[], rfl, rfl⟩, rfl, by simp [updatesRead], nofun⟩
  | @step past middle next move reached moved ih =>
      cases move with
      | read | leave =>
          have moved' := moved
          obtain rfl := Option.some.inj moved'
          exact ih.rest moved rfl (.inr rfl) rfl rfl ih.ended
      | happen move =>
          cases move with
          | step _ =>
              obtain ⟨reading, turn⟩ := turn_of_step moved
              exact ih.turn (sound_of_reaches reached) reading moved turn
          | answer call server =>
              have moved' := moved
              obtain rfl := Option.some.inj moved'
              refine ih.rest moved rfl ?_ rfl rfl ih.ended
              rcases answered : middle.fetched? with _ | result
              · exact .inl rfl
              · obtain ⟨exchange, flying, done⟩ := Option.bind_eq_some_iff.mp answered
                refine .inr (Eq.trans ?_ done)
                change (middle.watch.inFlight.map _).bind _ = _
                rw [flying]
                change (exchange.hear call server).result? = _
                rw [Exchange.hear_of_result? done]
          | advance milliseconds =>
              have moved' := moved
              obtain rfl := Option.some.inj moved'
              exact ih.rest moved rfl (.inr rfl) rfl rfl ih.ended

/-! ## After the end -/

/-- A watch with no fetch in flight hears nothing. -/
theorem hear_of_grounded {watch : Watch} (grounded : watch.inFlight = none) {call : CallId}
    {server : Server} : watch.hear call server = watch := by
  cases watch
  cases grounded
  rfl

/-- A watch that has finished does nothing more in a move but tell its end. -/
theorem move_of_finished (sound : Sound settings run) (finished : run.watch.finished = true)
    (moved : move settings run event = some next) :
    next.watch = run.watch ∧ next.calls = run.calls ∧ update? settings ⟨run, event⟩ = none
      ∧ ¬ Ticks settings ⟨run, event⟩ := by
  have tickless : ¬ Ticks settings ⟨run, event⟩ := fun ticks => by
    obtain ⟨_, _, _, _, unfinished⟩ := ticks.due
    exact absurd finished (Bool.eq_false_iff.mp unfinished)
  have closed : run.watch.finished ≠ false := by simp [finished]
  cases event with
  | read | leave =>
      obtain rfl := Option.some.inj moved
      exact ⟨rfl, rfl, rfl, tickless⟩
  | happen move =>
      cases move with
      | advance milliseconds =>
          obtain rfl := Option.some.inj moved
          exact ⟨rfl, rfl, rfl, tickless⟩
      | answer call server =>
          obtain rfl := Option.some.inj moved
          exact ⟨hear_of_grounded (sound.grounded finished), rfl, rfl, tickless⟩
      | step task =>
          obtain ⟨reading, turn⟩ := turn_of_step moved
          cases turn with
          | asks flying _ =>
              rw [sound.grounded finished] at flying
              cases flying
          | starts unfinished _ => exact absurd unfinished closed
          | ticks unfinished _ _ _ => exact absurd unfinished closed
          | passes unfinished _ _ => exact absurd unfinished closed
          | delivers unfinished _ _ => exact absurd unfinished closed
          | ends _ =>
              refine ⟨rfl, rfl, ?_, tickless⟩
              change ((system settings).step () run).bind _ = _
              rw [show (system settings).step () run = _ from moved]
              exact sound.unread reading

/-- Once a watch has finished, nothing is read, asked or fetched in any run that goes on. -/
theorem rests_of_finished (sound : Sound settings run) (finished : run.watch.finished = true)
    (reached : Reaches (move settings) run future next) :
    next.watch = run.watch ∧ next.calls = run.calls ∧ Sound settings next
      ∧ (∀ past, updatesRead settings (future ++ past) = updatesRead settings past)
      ∧ ∀ moment ∈ future, ¬ Ticks settings moment := by
  induction reached with
  | start => exact ⟨rfl, rfl, sound, fun _ => rfl, List.forall_mem_nil _⟩
  | step _ moved ih =>
      obtain ⟨watch, calls, soundNow, read, tickless⟩ := ih
      obtain ⟨watchNext, callsNext, unread, restful⟩ :=
        move_of_finished soundNow (watch ▸ finished) moved
      refine ⟨watchNext.trans watch, callsNext.trans calls, sound_of_move soundNow moved,
        fun past => ?_, List.forall_mem_cons.mpr ⟨restful, tickless⟩⟩
      rw [List.cons_append, updatesRead_cons, unread, read]
      exact List.append_nil _

/-- The reader of a finished watch sees the end of it with its next turn. -/
theorem step_of_finished (sound : Sound settings run) (finished : run.watch.finished = true)
    (reading : run.reading = true) :
    (system settings).step () run = some { run with ended := true, reading := false } := by
  have silent : run.watch.ask? = none := by rw [Watch.ask?, sound.grounded finished]
  have ended : run.watch.next settings run.now = .ended := by rw [Watch.next, if_pos finished]
  simp only [system, reading, Bool.not_true, Bool.false_eq_true, if_false, silent, ended]

/-! ## All runs -/

/-- What somebody who reads a watch hears of a transaction. -/
structure ReadsUpdates (settings : Watch.Settings) (past : History) (run : WatchRun) : Prop where
  /-- What has been read are the updates that all results make but one that has just come. -/
  exact : ∃ taken, results settings past = taken ++ run.fetched?.toList
    ∧ updatesRead settings past = settings.filter.updates taken
  /-- The fetch in flight is the one that the last tick began. -/
  alone : ∀ exchange, run.watch.inFlight = some exchange → IsLastFetch settings past run exchange
  /-- Every result is that of the fetch which the last tick before it began. -/
  fresh : ∀ moment earlier result, moment :: earlier <:+ past →
    result? settings moment = some result → ∃ after exchange,
      move settings moment.before moment.event = some after
        ∧ IsLastFetch settings (moment :: earlier) after exchange
        ∧ exchange.result? = some result
  /-- Only a fetch without a result gives way to a tick, and no earlier than a period after the tick
  before, but for what the timer forgives. -/
  timely : ∀ tick earlier, tick :: earlier <:+ past → Ticks settings tick →
    tick.before.fetched? = none ∧ ∀ before ∈ earlier, Ticks settings before →
      before.before.now + settings.interval ≤ tick.before.now + Ticker.tolerance
  /-- Who reads and has to wait has read everything, and waits no longer than to the next tick,
  which is due a period after the last one at the latest. -/
  prompt : run.reading = true → (system settings).step () run = none →
    updatesRead settings past = settings.filter.updates (results settings past)
      ∧ ∃ ticker, run.now < ticker.next ∧ Timed settings past run ticker
          ∧ run.watch.ticker = some ticker
  /-- A final status is the last update, and there is nothing more to read but the end. -/
  closed : (∃ update ∈ updatesRead settings past, update.status.isFinal = true) →
    ∀ future later, Reaches (move settings) run future later →
      later.calls = run.calls ∧ updatesRead settings (future ++ past) = updatesRead settings past
        ∧ (∀ moment ∈ future, ¬ Ticks settings moment)
        ∧ (later.reading = true → (system settings).step () later
          = some { later with ended := true, reading := false })
  /-- The end is only read after a final status. -/
  ended : run.ended = true → ∃ update ∈ updatesRead settings past, update.status.isFinal = true
  /-- Whoever only wants final statuses reads one at most. -/
  provider : settings.filter = .provider → ∃ final : Option TransactionUpdate,
    updatesRead settings past = final.toList ∧ ∀ update ∈ final, update.status.isFinal = true
  /-- Whoever also wants to hear that the user has to pay reads so once at most, and then one final
  status at most. -/
  localPayment : settings.filter = .localPayment → ∃ pending final : Option TransactionUpdate,
    updatesRead settings past = pending.toList ++ final.toList
      ∧ (∀ update ∈ pending, update.status = .pendingUserPayment)
      ∧ ∀ update ∈ final, update.status.isFinal = true

/-- **A watch tells exactly the updates that its results make.**  This holds for every filter and
period, whatever the services answer and when, and for every order of reading and waiting. -/
theorem updates_faithful (reached : Reaches (move settings) { now := begun } past run) :
    ReadsUpdates settings past run := by
  have sound := sound_of_reaches reached
  have faithful := faithful_of_reaches reached
  obtain ⟨taken, all, updates⟩ := faithful.split
  refine
    { exact := ⟨taken, all, updates⟩
      alone := fun exchange flying => isLastFetch_of_reaches reached flying
      fresh := fun moment earlier result suffix arrived => ?_
      timely := fun tick earlier => ticks_spaced reached
      prompt := fun reading waits => ?_
      closed := fun final future later reachedLater => ?_
      ended := fun ended => faithful.closed.mp (faithful.ended ended)
      provider := fun filter => ?_
      localPayment := fun filter => ?_ }
  · rw [result?] at arrived
    split at arrived
    · cases arrived
    · obtain ⟨after, moved, fetched⟩ := Option.bind_eq_some_iff.mp arrived
      obtain ⟨exchange, flying, done⟩ := Option.bind_eq_some_iff.mp fetched
      have reachedAfter := Reaches.step (reached.of_suffix suffix) moved
      exact ⟨after, exchange, moved, isLastFetch_of_reaches reachedAfter flying, done⟩
  · obtain ⟨unanswered, ticker, timer, early⟩ := waits_of_step_eq_none reading waits
    refine ⟨?_, ticker, early, (paced_of_reaches reached).timed ticker timer, timer⟩
    rw [all, unanswered, Option.toList_none, List.append_nil]
    exact updates
  · have finished := faithful.closed.mpr final
    obtain ⟨watch, calls, soundLater, read, tickless⟩ :=
      rests_of_finished sound finished reachedLater
    exact ⟨calls, read past, tickless, step_of_finished soundLater (watch ▸ finished)⟩
  · rw [updates, filter]
    exact StatusFilter.updates_provider taken
  · rw [updates, filter]
    exact StatusFilter.updates_localPayment taken

end WatchRun

/-! ## A run -/

namespace WatchRun

/-- A payment that the user makes elsewhere, followed with one look per second. -/
def Sample.settings : Watch.Settings where
  filter := .localPayment
  period := 1000
  fetch := Payment.fetchTransaction "tx"

/-- Services that know the wallet and how far the transaction has got. -/
def Sample.server (status : TransactionStatus) : Server
  | .wallet => .ok "0x1"
  | .transaction uid _ => .ok ⟨uid, status, none, none⟩
  | .saveRate _ _ => .ok ()
  | .loadRate _ => .ok none
  | .quote _ _ _ | .limits _ | .forecast _ _ | .partner _ _ | .methods | .info _ _ _ _ | .pay _
  | .redirect _ _ _ _ | .disable _ => .error .noWallet

def Sample.steps (count : Nat) : List Move := List.replicate count (.happen (.step ()))

/-- One fetch, from its tick to the update that it makes. -/
def Sample.fetching (first : CallId) (status : TransactionStatus) : List Move :=
  steps 2 ++ [Move.happen (.answer first (server status))] ++ steps 1
    ++ [Move.happen (.answer (first + 1) (server status))] ++ steps 1

/-- The first fetch is not answered before the next tick, and what it is answered after that is not
heard; then the user has to pay, and then it is done. -/
def Sample.moves : List Move :=
  [Move.read] ++ steps 3 ++ [Move.happen (.answer 0 (server .completed))] ++ steps 1
    ++ [Move.happen (.advance 1000)] ++ steps 1 ++ [Move.happen (.answer 1 (server .completed))]
    ++ steps 1 ++ [Move.happen (.answer 2 (server .pendingUserPayment))] ++ steps 1
    ++ [Move.happen (.answer 3 (server .pendingUserPayment))] ++ steps 1
    ++ [Move.read, .happen (.advance 1000)] ++ fetching 4 .pendingUserPayment
    ++ [Move.happen (.advance 1000)] ++ fetching 6 .completed ++ [Move.read] ++ steps 1

def Sample.run : WatchRun := (moves.foldlM (move settings) {}).getD {}

theorem updates_faithful_of_sample :
    ∃ past, Reaches (move Sample.settings) {} past Sample.run
      ∧ ReadsUpdates Sample.settings past Sample.run
      ∧ Sample.run.ended = true
      ∧ Sample.run.calls.length = 8 := by
  have ran : Sample.moves.foldlM (move Sample.settings) {} = some Sample.run := by rfl
  obtain ⟨past, reached, _⟩ := Reaches.of_foldlM ran
  exact ⟨past, reached, updates_faithful reached, rfl, rfl⟩

end WatchRun

end WalletTopUp
