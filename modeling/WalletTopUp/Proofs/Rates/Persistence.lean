import WalletTopUp.Proofs.Rates.Opening

/-!
# A file of rates works like rates in memory

As long as no caller is dropped the writings of a file take turns, so they never get into each
other's way, whatever fails and wherever the program stops.  The file is then always the complete
table after one of the saves, and a save that has returned well stays in it
(`CacheRun.file_refines_memory`).  If no save fails nothing tells the file from rates in memory.
-/

namespace WalletTopUp

open Disk FileCache

namespace CacheRun

variable {start run next : CacheRun} {past : CacheHistory} {base table : RateTable} {shown : Nat}
  {path : String} {disk : Disk} {move : Move}

/-! ## Callers that wait -/

/-- Whether a move drops no caller. -/
def Move.isAttended : Move → Bool
  | .abort | .leave _ | .workLeft _ _ => false
  | _ => true

/-- No writing is left alone. -/
theorem left_eq_nil_of_move (attended : move.isAttended = true) (alone : run.left = [])
    (moved : run.move move = some next) : next.left = [] := by
  cases moves_of_move moved with
  | save => exact alone
  | lock => exact alone
  | work =>
      change passBy _ _ _ _ run.left = []
      rw [alone, passBy]
      exact ite_self _
  | finish => exact alone
  | reopen => rfl
  | abort => cases attended
  | leave => cases attended
  | workLeft => cases attended

theorem left_eq_nil_of_reaches (alone : start.left = [])
    (attended : ∀ moment ∈ past, moment.event.isAttended = true)
    (reached : Reaches CacheRun.move start past run) : run.left = [] := by
  induction reached with
  | start => exact alone
  | step _ moved ih =>
      obtain ⟨last, before⟩ := List.forall_mem_cons.mp attended
      exact left_eq_nil_of_move last (ih before) moved

/-- **Callers that wait take turns.** -/
theorem exclusive_of_attended (alone : start.left = [])
    (attended : ∀ moment ∈ past, moment.event.isAttended = true)
    (reached : Reaches CacheRun.move start past run) : Exclusive past run := by
  have apart {run : CacheRun} (alone : run.left = []) : run.Apart := by
    rw [Apart, writings, alone, List.append_nil]
    cases run.holder with
    | none => exact List.Pairwise.nil
    | some writing => exact List.pairwise_singleton _ _
  refine ⟨fun moment member => ?_, apart (left_eq_nil_of_reaches alone attended reached)⟩
  obtain ⟨earlier, _, suffix, reachedEarlier, _⟩ := reached.exists_of_mem member
  refine apart (left_eq_nil_of_reaches alone (fun other inside => ?_) reachedEarlier)
  exact attended other (suffix.subset (List.mem_cons_of_mem _ inside))

/-! ## When the file changes -/

/-- **The file changes only when the writing that has the lock puts a whole table in its place.** -/
theorem Orderly.content?_of_move (orderly : Orderly start past base shown run)
    (attended : move.isAttended = true) (moved : run.move move = some next) :
    next.content? = run.content?
      ∨ ∃ before ∈ run.holder, ∃ after ∈ next.holder,
          before.flush = .replace ∧ after.flush = .finished := by
  cases moves_of_move moved with
  | save => exact .inl rfl
  | lock => exact .inl rfl
  | @work writing stroke held =>
      have fits := orderly.fits writing (List.mem_append_left _ (Option.mem_toList.mpr held))
      rcases fits.writes.keepsFile_or_replaces (Flush.stepped _ stroke _ _) with
        ⟨keeps, _⟩ | replaces
      · exact .inl (orderly.shows.read_kept keeps)
      · exact .inr ⟨writing, held, _, rfl, replaces.before, replaces.after⟩
  | finish => exact .inl rfl
  | reopen opened =>
      rw [content?, content?, path_of_openAt opened]
      exact .inl rfl
  | abort => cases attended
  | leave => cases attended
  | workLeft => cases attended

/-! ## When nothing fails -/

/-- What has been saved, in the order of the calls. -/
def savesOf : CacheHistory → List RateRecord
  | [] => []
  | moment :: past => savesOf past ++ moment.event.saved

/-- No save has returned with an error, and the file was opened again only between the saves. -/
def Unfailing (past : CacheHistory) : Prop :=
  ∀ moment ∈ past,
    (moment.event = .finish → ∀ writing ∈ moment.before.holder, writing.flush ≠ .failed)
      ∧ (moment.event = .reopen → moment.before.holder = none ∧ moment.before.waiting = [])

/-- Every save since the file was opened waits, is being written or has returned well. -/
def Accounted (past : CacheHistory) (run : CacheRun) : Prop :=
  ∀ number < run.saves.length, number ∈ run.waiting
    ∨ (∃ writing ∈ run.holder, writing.save = number) ∨ number ∈ returned past

/-- No save is forgotten. -/
theorem Accounted.step (accounted : Accounted past run) (attended : move.isAttended = true)
    (unfailing : move = .finish → ∀ writing ∈ run.holder, writing.flush ≠ .failed)
    (moved : run.move move = some next) : Accounted (⟨run, move⟩ :: past) next := by
  intro number within
  cases moves_of_move moved with
  | save key rate =>
      have length : (run.store key rate).saves.length = run.saves.length + 1 := List.length_append
      rw [length] at within
      rcases Nat.lt_or_eq_of_le (Nat.le_of_lt_succ within) with earlier | rfl
      · exact (accounted number earlier).imp_left (List.mem_append_left _)
      · exact .inl (List.mem_append_right _ List.mem_cons_self)
  | lock free line =>
      rcases accounted number within with waits | ⟨writing, held, _⟩ | returned
      · rw [line] at waits
        rcases List.mem_cons.mp waits with rfl | waits
        · exact .inr (.inl ⟨_, rfl, rfl⟩)
        · exact .inl waits
      · rw [free] at held
        cases held
      · exact .inr (.inr returned)
  | work stroke held =>
      refine (accounted number within).imp_right (.imp_left ?_)
      rintro ⟨other, there, rfl⟩
      cases held.symm.trans there
      exact ⟨_, rfl, rfl⟩
  | @finish writing held ended =>
      have finished : writing.flush = .finished := by
        have well := unfailing rfl writing held
        cases flush : writing.flush with
        | finished => rfl
        | failed => exact absurd flush well
        | _ =>
            rw [flush] at ended
            cases ended
      refine (accounted number within).imp_right fun rest => .inr (List.mem_append.mpr ?_)
      refine rest.imp_left ?_
      rintro ⟨other, there, rfl⟩
      cases held.symm.trans there
      simp [held, finished]
  | reopen => exact absurd within (Nat.not_lt_zero number)
  | abort => cases attended
  | leave => cases attended
  | workLeft => cases attended

/-- **What is in memory is all that has been saved**, and no save is forgotten, if nothing fails. -/
theorem table_of_reaches (written : WrittenFor disk path table)
    (attended : ∀ moment ∈ past, moment.event.isAttended = true) (stamped : Stamped past)
    (unfailing : Unfailing past)
    (reached : Reaches CacheRun.move { disk, cache := ⟨path, table⟩ } past run) :
    run.cache.table = table.storing (savesOf past) ∧ Accounted past run := by
  induction reached with
  | start => exact ⟨rfl, nofun⟩
  | @step past run next move earlier moved ih =>
      obtain ⟨attendedLast, attendedBefore⟩ := List.forall_mem_cons.mp attended
      obtain ⟨_, stampedBefore⟩ := List.forall_mem_cons.mp stamped
      obtain ⟨unfailingLast, unfailingBefore⟩ := List.forall_mem_cons.mp unfailing
      obtain ⟨whole, accounted⟩ := ih attendedBefore stampedBefore unfailingBefore
      refine ⟨?_, accounted.step attendedLast unfailingLast.1 moved⟩
      by_cases again : move = .reopen
      · subst again
        obtain ⟨base, shown, orderly, distinct, lasts⟩ := orderly_of_reaches written earlier
          (exclusive_of_attended rfl attendedBefore earlier) fun _ => stampedBefore
        obtain ⟨lastsBase, lastsSaves⟩ := lasts stampedBefore
        obtain ⟨rfl, _⟩ := orderly.reopen distinct lastsBase lastsSaves moved
        -- The file shows all saves, for all of them have returned well.
        have all : run.saves.length ≤ shown := by
          obtain ⟨free, line⟩ := unfailingLast.2 rfl
          refine Nat.le_of_not_lt fun less => ?_
          rcases accounted shown less with waits | ⟨writing, held, _⟩ | well
          · exact absurd (line ▸ waits) List.not_mem_nil
          · cases held.symm.trans free
          · exact absurd (orderly.returned shown well) (Nat.lt_irrefl shown)
        have same : savesOf (⟨run, .reopen⟩ :: past) = savesOf past := List.append_nil _
        change base.storing (run.saves.take shown) = _
        rw [List.take_of_length_le all, ← orderly.table, whole, same]
      · rw [(memory_of_move moved again).2, whole]
        exact (RateTable.storing_append _ _ _).symm

/-! ## A save on its own -/

/-- The steps of a writing that is alone are those of its flush. -/
theorem foldlM_work {writing : Writing} (held : run.holder = some writing) (alone : run.left = [])
    (steps : Nat) :
    (List.replicate steps (Move.work .whole)).foldlM CacheRun.move run
      = some { run with
          disk := (writing.flush.run run.cache.path run.disk steps).1
          holder := some { writing with
            flush := (writing.flush.run run.cache.path run.disk steps).2 } } := by
  induction steps generalizing run writing with
  | zero =>
      rw [Flush.run, ← held]
      rfl
  | succ steps ih =>
      have left : passBy run.cache.path run.disk writing.flush
          (writing.flush.step run.cache.path .whole run.disk).2 [] = [] := by
        rw [passBy]
        exact ite_self _
      have moved : run.move (.work .whole) = some { run with
          disk := (writing.flush.step run.cache.path .whole run.disk).1
          holder := some { writing with
            flush := (writing.flush.step run.cache.path .whole run.disk).2 }
          left := [] } := by
        rw [CacheRun.move, held, Option.map_some, proceed, alone]
        exact congrArg (fun left => some { run with
          disk := (writing.flush.step run.cache.path .whole run.disk).1
          holder := some { writing with
            flush := (writing.flush.step run.cache.path .whole run.disk).2 }
          left }) left
      rw [List.replicate_succ, List.foldlM_cons, moved]
      refine (ih rfl rfl).trans ?_
      rw [Flush.run_succ, alone]

/-- What a save does when nothing else goes on and nothing is done by halves. -/
def Move.wholeSave (key : RateKey) (rate : CachedRate) : List Move :=
  .save key rate :: .lock :: List.replicate Flush.stepCount (.work .whole) ++ [.finish]

/-- **A save that nothing disturbs is `FileCache.save`.** -/
theorem foldlM_wholeSave (free : run.holder = none) (line : run.waiting = [])
    (alone : run.left = []) (key : RateKey) (rate : CachedRate) :
    (Move.wholeSave key rate).foldlM CacheRun.move run
      = some { run with
          disk := (run.cache.save run.disk key rate).2.2
          cache := (run.cache.save run.disk key rate).2.1
          saves := run.saves ++ [⟨key, rate⟩] } := by
  obtain ⟨disk, cache, saves, waiting, holder, left⟩ := run
  subst free line alone
  let changed := cache.table.insert key rate
  let locked : CacheRun :=
    { disk
      cache := ⟨cache.path, changed⟩
      saves := saves ++ [⟨key, rate⟩]
      holder := some
        ⟨saves.length, (saves ++ [(⟨key, rate⟩ : RateRecord)]).length, .begin cache.path changed⟩ }
  have started : [Move.save key rate, .lock].foldlM CacheRun.move { disk, cache, saves }
      = some locked := rfl
  have worked := @foldlM_work locked _ rfl rfl Flush.stepCount
  have ended := Flush.hasEnded_run cache.path disk changed
  have parts : Move.wholeSave key rate = [Move.save key rate, .lock]
      ++ (List.replicate Flush.stepCount (.work .whole) ++ [.finish]) := rfl
  rw [parts, List.foldlM_append, started, Option.bind_eq_bind, Option.bind_some,
    List.foldlM_append, worked, Option.bind_eq_bind, Option.bind_some, List.foldlM_cons]
  simp only [CacheRun.move, Option.bind_some]
  rw [if_pos ended]
  rfl

/-! ## The file against rates in memory -/

/-- **A file of rates refines rates in memory and is never half written.**  Any step of a save may
fail, and the program may stop at any moment.  Then the file is absent, or it is the complete table
after an earlier save and can be opened again with it; it changes only when a writing puts a whole
table in its place; as long as no save has failed the file finds what rates in memory find, for the
last save under a key wins; and what a save that has returned well was to keep, saves that failed
before it among them, is in the file. -/
theorem file_refines_memory {cache : FileCache} (opened : openAt disk path = .ok cache)
    (written : WrittenFor disk path table) (stamped : Stamped past)
    (attended : ∀ moment ∈ past, moment.event.isAttended = true)
    (reached : Reaches CacheRun.move { disk, cache } past run) :
    ((run.content? = none ∧ ∀ next, run.move .reopen = some next → next.cache.table = [])
      ∨ ∃ shown, run.content? = some (render shown) ∧ Snapshot { disk, cache } past shown
          ∧ run.move .reopen = some { disk := run.disk, cache := ⟨run.cache.path, shown⟩ })
    ∧ (∀ move next, move.isAttended = true → run.move move = some next →
        next.content? = run.content?
          ∨ ∃ before ∈ run.holder, ∃ after ∈ next.holder,
              before.flush = .replace ∧ after.flush = .finished)
    ∧ (Unfailing past → ∀ key,
        (RateStore.file run.cache run.disk).load key
            = ((RateStore.memory cache.table).saving (savesOf past)).load key
          ∧ run.cache.load key
            = (((savesOf past).reverse.find? fun record => record.key.sameKey key).map
                RateRecord.rate).or (cache.load key))
    ∧ ∀ number ∈ returned past, ∃ shown, run.content? = some (render shown)
        ∧ ∀ earlier ≤ number, shown.Keeps run.saves earlier := by
  obtain rfl := written.eq_of_openAt opened
  obtain ⟨base, shown, orderly, distinct, lasts⟩ := orderly_of_reaches written reached
    (exclusive_of_attended rfl attended reached) fun _ => stamped
  obtain ⟨lastsBase, lastsSaves⟩ := lasts stamped
  refine ⟨?_, fun move next attended moved => orderly.content?_of_move attended moved, ?_, ?_⟩
  · rcases orderly.content?_eq with ⟨content, rfl, rfl⟩ | ⟨content, snapshot⟩
    · refine .inl ⟨content, fun next moved => ?_⟩
      rw [(orderly.reopen distinct lastsBase lastsSaves moved).1]
      rfl
    · exact .inr ⟨_, content, snapshot,
        orderly.move_reopen distinct lastsBase lastsSaves content⟩
  · intro unfailing key
    have whole := (table_of_reaches written attended stamped unfailing reached).1
    rw [RateStore.saving_memory]
    refine ⟨?_, ?_⟩
    · rw [RateStore.load, RateStore.load, FileCache.load, whole]
    · rw [FileCache.load, whole, RateTable.find?_storing]
      rfl
  · exact fun number well => ⟨_, orderly.keeps_of_returned well⟩

namespace Sample

/-- The rate of an amount of tokens, and what it comes to. -/
def record (mantissa scale worth : Nat) : RateRecord :=
  ⟨⟨.appcToFiat, (Decimal.ofParts? false mantissa scale).getD .zero⟩,
    ⟨(Decimal.ofParts? false worth 2).getD .zero, "EUR", "€", {}⟩⟩

/-- Where the rates are kept, in a directory that is not there yet. -/
def ratesPath : String := "cache/rates.json"

/-- Nothing has been stored yet. -/
def fresh : CacheRun := { disk := {}, cache := ⟨ratesPath, []⟩ }

theorem opened : openAt fresh.disk ratesPath = .ok fresh.cache := by decide +kernel

theorem nothingWritten : WrittenFor fresh.disk ratesPath [] := by
  have nothing : fresh.disk.node? (landingOf ratesPath) = none := by decide +kernel
  exact .missing fun content there => by cases nothing.symm.trans there

/-- The program stops while the rate of `1.0` is being written.  Another one saves a rate for `2`,
which fails half way, and then one for `1`, which comes to a good end. -/
def failures : List Move :=
  [Move.save (record 10 1 250).key (record 10 1 250).rate, .lock, .work .whole, .work .whole,
    .work .whole, .work (.part 7), .reopen]
  ++ [Move.save (record 2 0 500).key (record 2 0 500).rate, .lock, .work .whole, .work .whole,
    .work .whole, .work (.part 30), .work .fails, .finish]
  ++ Move.wholeSave (record 1 0 260).key (record 1 0 260).rate

end Sample

theorem file_refines_memory_of_failures :
    ∃ past run,
      Reaches CacheRun.move Sample.fresh past run
        ∧ run.saves = [Sample.record 2 0 500, Sample.record 1 0 260]
        ∧ returned past = [1]
        ∧ ∃ shown, run.content? = some (render shown)
            ∧ ∀ earlier ≤ 1, shown.Keeps run.saves earlier := by
  have checked : ∃ result ∈ Reaches.follow CacheRun.move Sample.fresh Sample.failures,
      (∀ moment ∈ result.1, moment.event.isAttended = true
          ∧ ∀ record ∈ moment.event.saved, record.rate.savedAt.Lasts)
        ∧ result.2.saves = [Sample.record 2 0 500, Sample.record 1 0 260]
        ∧ returned result.1 = [1] := by decide +kernel
  obtain ⟨⟨past, run⟩, followed, events, saved, well⟩ := checked
  have reached := Reaches.of_follow followed
  have stamped : Stamped past := by
    intro moment member key rate same
    refine (events moment member).2 ⟨key, rate⟩ ?_
    rw [same]
    exact List.mem_cons_self
  have refines := file_refines_memory Sample.opened Sample.nothingWritten stamped
    (fun moment member => (events moment member).1) reached
  exact ⟨past, run, reached, saved, well,
    refines.2.2.2 1 (well ▸ List.mem_cons_self)⟩

end CacheRun

end WalletTopUp
