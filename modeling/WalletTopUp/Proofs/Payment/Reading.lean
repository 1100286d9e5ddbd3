import WalletTopUp.Proofs.Schedule.Moves
import WalletTopUp.Schedule.Systems

/-!
# Reading a watch

A watch moves while somebody reads it, its calls are answered whether it is read or not, and whoever
reads it may stop and go on at any time (`WatchRun.Move`).  A step of a watch that is read is one of
six (`WatchRun.Turn`); what each of them leaves alone is read off here once.
-/

namespace WalletTopUp

namespace WatchRun

variable {settings : Watch.Settings} {run next : WatchRun}

/-- What can happen to a watch and its reader. -/
inductive Move where
  /-- Somebody begins to read. -/
  | read
  /-- Nobody reads any longer. -/
  | leave
  /-- The watch takes a step, a call is answered, or time passes. -/
  | happen (move : Schedule.System.Move Unit)

/-- The run after a move, `none` if the move is not possible. -/
def move (settings : Watch.Settings) (run : WatchRun) : Move → Option WatchRun
  | .read => some { run with reading := true, update := none }
  | .leave => some { run with reading := false }
  | .happen move => (system settings).move run move

/-- The result of the fetch in flight, once it has one. -/
def fetched? (run : WatchRun) : Option FetchResult := run.watch.inFlight.bind Exchange.result?

/-- Whether an update is news to the reader of a watch. -/
def IsNews (settings : Watch.Settings) (watch : Watch) (update : TransactionUpdate) : Prop :=
  settings.filter.delivers update.status = true ∧ watch.lastDelivered ≠ some update.status

/-! ## Steps -/

/-- One step of a watch that is read. -/
inductive Turn (settings : Watch.Settings) (run : WatchRun) : WatchRun → Prop where
  /-- The fetch in flight makes a request. -/
  | asks {exchange : Exchange FetchResult} {request : Request}
      {resume : CallId → Exchange FetchResult}
      (flying : run.watch.inFlight = some exchange)
      (asks : exchange.ask? = some (request, resume)) :
      Turn settings run { run with
        watch := { run.watch with inFlight := some (resume run.calls.length) }
        calls := run.calls ++ [⟨run.now, request⟩] }
  /-- The timer starts. -/
  | starts (unfinished : run.watch.finished = false) (fresh : run.watch.ticker = none) :
      Turn settings run { run with
        watch := { run.watch with ticker := some (.start settings.interval run.now) } }
  /-- A tick begins a fetch, in place of one that has not come to its end. -/
  | ticks {ticker : Ticker} (unfinished : run.watch.finished = false)
      (timer : run.watch.ticker = some ticker) (due : ticker.next ≤ run.now)
      (unanswered : run.fetched? = none) :
      Turn settings run { run with watch := run.watch.refetch settings ticker run.now }
  /-- A result is passed over. -/
  | passes {result : FetchResult} (unfinished : run.watch.finished = false)
      (fetched : run.fetched? = some result)
      (old : ∀ update, result = .ok update → ¬ IsNews settings run.watch update) :
      Turn settings run { run with watch := { run.watch with inFlight := none } }
  /-- An update is read. -/
  | delivers {update : TransactionUpdate} (unfinished : run.watch.finished = false)
      (fetched : run.fetched? = some (.ok update))
      (news : IsNews settings run.watch update) :
      Turn settings run { run with
        watch :=
          { ticker := if update.status.isFinal then none else run.watch.ticker
            inFlight := none
            lastDelivered := some update.status
            finished := update.status.isFinal }
        update := some update
        reading := false }
  /-- The end is read. -/
  | ends (finished : run.watch.finished = true) :
      Turn settings run { run with ended := true, reading := false }

/-- What a watch makes of the result of a fetch. -/
theorem receive_cases (settings : Watch.Settings) (watch : Watch) (result : FetchResult) :
    (watch.receive settings result = .moved { watch with inFlight := none }
        ∧ ∀ update, result = .ok update → ¬ IsNews settings watch update)
      ∨ ∃ update, result = .ok update ∧ IsNews settings watch update
        ∧ watch.receive settings result = .delivered update
            { ticker := if update.status.isFinal then none else watch.ticker
              inFlight := none
              lastDelivered := some update.status
              finished := update.status.isFinal } := by
  cases result with
  | error _ => exact .inl ⟨rfl, nofun⟩
  | ok update =>
      simp only [Watch.receive]
      split
      · next wanted =>
          rw [Bool.and_eq_true, bne_iff_ne] at wanted
          exact .inr ⟨update, rfl, wanted, rfl⟩
      · next unwanted =>
          rw [Bool.and_eq_true, bne_iff_ne] at unwanted
          refine .inl ⟨rfl, fun update' same => ?_⟩
          cases same
          exact unwanted

/-- What a watch does next when it is read and has nothing to ask. -/
theorem next_cases (settings : Watch.Settings) (run : WatchRun) :
    (run.watch.finished = true ∧ run.watch.next settings run.now = .ended)
      ∨ (run.watch.finished = false ∧ run.watch.ticker = none
        ∧ run.watch.next settings run.now
          = .moved { run.watch with ticker := some (.start settings.interval run.now) })
      ∨ (∃ ticker result, run.watch.finished = false ∧ run.watch.ticker = some ticker
        ∧ run.fetched? = some result
        ∧ run.watch.next settings run.now = run.watch.receive settings result)
      ∨ ∃ ticker, run.watch.finished = false ∧ run.watch.ticker = some ticker
        ∧ run.fetched? = none
        ∧ run.watch.next settings run.now
          = if ticker.isDue run.now then .moved (run.watch.refetch settings ticker run.now)
            else .idle := by
  have flies : ∀ exchange, run.watch.inFlight = some exchange → run.fetched? = exchange.result? :=
    fun exchange flying => by rw [fetched?, flying]; rfl
  rw [Watch.next]
  split
  · next finished => exact .inl ⟨finished, rfl⟩
  · next unfinished =>
      have unfinished := Bool.eq_false_iff.mpr unfinished
      split
      · next fresh => exact .inr (.inl ⟨unfinished, fresh, rfl⟩)
      · next ticker timer =>
          split
          · next grounded =>
              have unanswered : run.fetched? = none := by rw [fetched?, grounded]; rfl
              exact .inr (.inr (.inr ⟨ticker, unfinished, timer, unanswered, rfl⟩))
          · next exchange flying =>
              split
              · next result fetched =>
                  exact .inr (.inr (.inl ⟨ticker, result, unfinished, timer,
                    (flies _ flying).trans fetched, rfl⟩))
              · next unanswered =>
                  exact .inr (.inr (.inr ⟨ticker, unfinished, timer,
                    (flies _ flying).trans unanswered, rfl⟩))

/-- A watch that moves on has the fetch that it had, or begins one. -/
theorem next_moved {watch later : Watch} {now : Instant}
    (moved : watch.next settings now = .moved later) :
    later.finished = watch.finished ∧ ∀ exchange, later.inFlight = some exchange →
      watch.inFlight = some exchange ∨ exchange = .ready settings.fetch := by
  rcases next_cases settings { now, watch } with ⟨_, same⟩ | ⟨_, _, same⟩
    | ⟨_, result, _, _, _, same⟩ | ⟨ticker, _, _, _, same⟩
  · cases moved.symm.trans same
  · cases moved.symm.trans same
    exact ⟨rfl, fun _ flying => .inl flying⟩
  · rcases receive_cases settings watch result with ⟨received, _⟩ | ⟨_, _, _, received⟩
    · cases moved.symm.trans (same.trans received)
      exact ⟨rfl, fun _ => nofun⟩
    · cases moved.symm.trans (same.trans received)
  · by_cases due : ticker.isDue now = true
    · cases moved.symm.trans (same.trans (if_pos due))
      exact ⟨rfl, fun _ flying => .inr (Option.some.inj flying).symm⟩
    · cases moved.symm.trans (same.trans (if_neg due))

/-- A watch that delivers an update has no fetch in flight, and has finished if it is final. -/
theorem next_delivered {watch later : Watch} {now : Instant} {update : TransactionUpdate}
    (delivered : watch.next settings now = .delivered update later) :
    later.finished = update.status.isFinal ∧ later.inFlight = none := by
  rcases next_cases settings { now, watch } with ⟨_, same⟩ | ⟨_, _, same⟩
    | ⟨_, result, _, _, _, same⟩ | ⟨ticker, _, _, _, same⟩
  · cases delivered.symm.trans same
  · cases delivered.symm.trans same
  · rcases receive_cases settings watch result with ⟨received, _⟩ | ⟨_, _, _, received⟩
    · cases delivered.symm.trans (same.trans received)
    · cases delivered.symm.trans (same.trans received)
      exact ⟨rfl, rfl⟩
  · by_cases due : ticker.isDue now = true
    · cases delivered.symm.trans (same.trans (if_pos due))
    · cases delivered.symm.trans (same.trans (if_neg due))

/-- A watch puts a request only for the fetch it has in flight. -/
theorem ask?_eq_some {watch : Watch} {request : Request} {resume : CallId → Watch}
    (asks : watch.ask? = some (request, resume)) :
    ∃ exchange later, watch.inFlight = some exchange ∧ exchange.ask? = some (request, later)
      ∧ resume = fun call => { watch with inFlight := some (later call) } := by
  simp only [Watch.ask?] at asks
  split at asks
  · cases asks
  · next exchange flying =>
      obtain ⟨⟨_, later⟩, puts, same⟩ := Option.map_eq_some_iff.mp asks
      cases same
      exact ⟨exchange, later, flying, puts, rfl⟩

/-- Every step of a watch is a turn of one that is read. -/
theorem turn_of_step (stepped : (system settings).step () run = some next) :
    run.reading = true ∧ Turn settings run next := by
  simp only [system] at stepped
  split at stepped
  · cases stepped
  · next reading =>
      refine ⟨by simpa using reading, ?_⟩
      split at stepped
      · next request resume asks =>
          obtain ⟨exchange, later, flying, puts, rfl⟩ := ask?_eq_some asks
          cases stepped
          exact .asks flying puts
      · next silent =>
          rcases next_cases settings run with ⟨finished, same⟩ | ⟨unfinished, fresh, same⟩
            | ⟨ticker, result, unfinished, timer, fetched, same⟩
            | ⟨ticker, unfinished, timer, unanswered, same⟩
          · rw [same] at stepped
            cases stepped
            exact .ends finished
          · rw [same] at stepped
            cases stepped
            exact .starts unfinished fresh
          · rcases receive_cases settings run.watch result with ⟨received, old⟩
              | ⟨update, rfl, news, received⟩
            · rw [same, received] at stepped
              cases stepped
              exact .passes unfinished fetched old
            · rw [same, received] at stepped
              cases stepped
              exact .delivers unfinished fetched news
          · rw [same] at stepped
            by_cases due : ticker.isDue run.now = true
            · rw [if_pos due] at stepped
              cases stepped
              exact .ticks unfinished timer (of_decide_eq_true due) unanswered
            · rw [if_neg due] at stepped
              cases stepped

/-- A watch that is read and cannot take a step waits for an answer or for its next tick. -/
theorem waits_of_step_eq_none (reading : run.reading = true)
    (waits : (system settings).step () run = none) :
    run.fetched? = none ∧ ∃ ticker, run.watch.ticker = some ticker ∧ run.now < ticker.next := by
  simp only [system, reading, Bool.not_true, Bool.false_eq_true, if_false] at waits
  split at waits
  · cases waits
  · rcases next_cases settings run with ⟨_, same⟩ | ⟨_, _, same⟩ | ⟨_, result, _, _, _, same⟩
      | ⟨ticker, _, timer, unanswered, same⟩
    · rw [same] at waits
      cases waits
    · rw [same] at waits
      cases waits
    · rcases receive_cases settings run.watch result with ⟨received, _⟩ | ⟨_, _, _, received⟩ <;>
      · rw [same, received] at waits
        cases waits
    · refine ⟨unanswered, ticker, timer, ?_⟩
      by_contra late
      have due : ticker.isDue run.now = true := decide_eq_true (Nat.le_of_not_lt late)
      rw [same, if_pos due] at waits
      cases waits

/-! ## What the parts of a watch say of each other -/

/-- A fetch is in flight only while the timer runs, and the timer runs until a final status. -/
structure Sound (settings : Watch.Settings) (run : WatchRun) : Prop where
  timed : ∀ exchange, run.watch.inFlight = some exchange → ∃ ticker, run.watch.ticker = some ticker
  stopped : run.watch.finished = true → run.watch.ticker = none
  period : ∀ ticker, run.watch.ticker = some ticker → ticker.period = settings.interval
  /-- Reading goes on as long as there is no update. -/
  unread : run.reading = true → run.update = none

/-- A finished watch has no fetch in flight. -/
theorem Sound.grounded (sound : Sound settings run) (finished : run.watch.finished = true) :
    run.watch.inFlight = none := by
  by_contra flying
  obtain ⟨exchange, flying⟩ := Option.ne_none_iff_exists'.mp flying
  obtain ⟨ticker, timer⟩ := sound.timed exchange flying
  rw [sound.stopped finished] at timer
  cases timer

/-- A turn of the reader keeps the watch sound. -/
theorem Sound.turn (sound : Sound settings run) (turn : Turn settings run next) :
    Sound settings next := by
  cases turn with
  | asks flying _ => exact { sound with timed := fun _ _ => sound.timed _ flying }
  | starts unfinished _ =>
      exact
        { timed := fun _ _ => ⟨_, rfl⟩
          stopped := fun finished => absurd (unfinished.symm.trans finished) (by decide)
          period := fun _ timer => Option.some.inj timer ▸ rfl
          unread := sound.unread }
  | ticks unfinished timer _ _ =>
      exact
        { timed := fun _ _ => ⟨_, rfl⟩
          stopped := fun finished => absurd (unfinished.symm.trans finished) (by decide)
          period := fun _ ticked => by
            have period := sound.period _ timer
            rw [← Option.some.inj ticked]
            exact period
          unread := sound.unread }
  | passes _ _ _ => exact { sound with timed := fun _ => nofun }
  | @delivers update _ _ _ =>
      refine ⟨fun _ => nofun, fun final => ?_, fun ticker timer => ?_, nofun⟩
      · exact if_pos final
      · dsimp only at timer
        split at timer
        · cases timer
        · exact sound.period ticker timer
  | ends _ => exact { sound with unread := nofun }

/-- Every move keeps the watch sound. -/
theorem sound_of_move {move : Move} (sound : Sound settings run)
    (moved : WatchRun.move settings run move = some next) : Sound settings next := by
  cases move with
  | read =>
      obtain rfl := Option.some.inj moved
      exact { sound with unread := fun _ => rfl }
  | leave =>
      obtain rfl := Option.some.inj moved
      exact { sound with unread := nofun }
  | happen move =>
      cases move with
      | step _ => exact sound.turn (turn_of_step moved).2
      | answer call server =>
          obtain rfl := Option.some.inj moved
          refine { sound with timed := fun exchange flying => ?_ }
          obtain ⟨earlier, flying, _⟩ := Option.map_eq_some_iff.mp flying
          exact sound.timed earlier flying
      | advance milliseconds =>
          obtain rfl := Option.some.inj moved
          exact { sound with }

/-- Every run of a watch is sound. -/
theorem sound_of_reaches {begun : Instant} {past : List (Moment WatchRun Move)}
    (reached : Reaches (move settings) { now := begun } past run) : Sound settings run := by
  induction reached with
  | start => exact ⟨fun _ => nofun, nofun, fun _ => nofun, nofun⟩
  | step _ moved ih => exact sound_of_move ih moved

end WatchRun

end WalletTopUp
