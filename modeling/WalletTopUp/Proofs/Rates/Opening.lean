import WalletTopUp.Proofs.Rates.Snapshots

/-!
# Opening a file of rates

A file that has been written for a table is opened with this table.  So whenever a run in which the
writings keep apart stops, the file can be opened again, with the table that it shows
(`CacheRun.orderly_of_reaches`).
-/

namespace WalletTopUp

open Disk

namespace FileCache

variable {disk : Disk} {path : String} {table : RateTable} {cache : FileCache}

/-- A store that is opened at a path has that path. -/
theorem path_of_openAt (opened : openAt disk path = .ok cache) : cache.path = path := by
  unfold openAt at opened
  split at opened
  · exact (Except.ok.inj opened) ▸ rfl
  · cases opened
  · split at opened
    · cases opened
    · exact (Except.ok.inj opened) ▸ rfl

/-- There is no file yet, or it has been written for a table. -/
inductive WrittenFor (disk : Disk) (path : String) : RateTable → Prop
  | missing : (∀ content, disk.node? (landingOf path) ≠ some (.file content)) →
      WrittenFor disk path []
  | file {table : RateTable} : table.Distinct → table.Lasts →
      disk.read path = .ok (render table) → WrittenFor disk path table

/-- A file that has been written for a table can be opened. -/
theorem openAt_of_read (distinct : table.Distinct) (lasts : table.Lasts)
    (read : disk.read path = .ok (render table)) : openAt disk path = .ok ⟨path, table⟩ := by
  rw [openAt, read]
  simp only [parse?_render distinct lasts]

/-- **It is opened with its table.** -/
theorem WrittenFor.eq_of_openAt (written : WrittenFor disk path table)
    (opened : openAt disk path = .ok cache) : cache = ⟨path, table⟩ := by
  cases written with
  | missing missing =>
      rw [openAt] at opened
      split at opened
      · exact (Except.ok.inj opened).symm
      · cases opened
      · next text read => exact absurd (read_eq_ok_iff.mp read).2 (missing text)
  | file distinct lasts read =>
      exact (Except.ok.inj ((openAt_of_read distinct lasts read).symm.trans opened)).symm

/-- What was written for a table makes its keys distinct. -/
theorem WrittenFor.distinct (written : WrittenFor disk path table) : table.Distinct := by
  cases written with
  | missing => exact List.Pairwise.nil
  | file distinct => exact distinct

/-- What was written for a table lasts. -/
theorem WrittenFor.lasts (written : WrittenFor disk path table) : table.Lasts := by
  cases written with
  | missing => exact List.forall_mem_nil _
  | file _ lasts => exact lasts

end FileCache

open FileCache

namespace CacheRun

variable {start run next : CacheRun} {past : CacheHistory} {base table : RateTable} {shown : Nat}
  {saves : List RateRecord} {path : String} {disk : Disk}

/-! ## What a run stops with -/

/-- What the file shows has been written for a table, with which it can be opened again. -/
theorem Shows.writtenFor (shows : Shows start past base saves path disk shown)
    (distinct : base.Distinct) (lasts : base.Lasts) (stamps : RateTable.Lasts saves) :
    WrittenFor disk path (base.storing (saves.take shown))
      ∧ Shows start past (base.storing (saves.take shown)) [] path disk 0 := by
  cases shows with
  | missing empty none missing =>
      subst empty none
      exact ⟨.missing missing, .missing rfl rfl missing⟩
  | file leads file snapshot =>
      have taken : RateTable.Lasts (saves.take shown) :=
        fun record member => stamps record (List.mem_of_mem_take member)
      exact ⟨.file (RateTable.distinct_storing distinct _) (RateTable.lasts_storing lasts taken)
        (read_eq_ok_iff.mpr ⟨leads, file⟩), .file leads file snapshot⟩

/-- A file that has just been opened shows the table that it was opened with. -/
theorem orderly_of_shows (shows : Shows start past base [] path disk 0)
    (fresh : returned past = []) :
    Orderly start past base 0 { disk, cache := ⟨path, base⟩ } where
  table := rfl
  waiting := nofun
  within := le_rfl
  shows := shows
  fits := nofun
  finished := nofun
  ahead := nofun
  pooled := nofun
  replacing := nofun
  overtaken := nofun
  returned := by
    rw [fresh]
    exact nofun
  logged count positive within := absurd within (Nat.not_le_of_gt positive)

/-- A disk with what was written for a table shows that table when it is opened. -/
theorem shows_of_writtenFor (written : WrittenFor disk path table) :
    Shows { disk, cache := ⟨path, table⟩ } [] table [] path disk 0 := by
  cases written with
  | missing missing => exact .missing rfl rfl missing
  | file distinct lasts read =>
      obtain ⟨leads, file⟩ := read_eq_ok_iff.mp read
      refine .file leads file (.inl ?_)
      rw [content?, read]
      rfl

/-- Opening the file again goes on with the table that the file shows. -/
theorem Orderly.reopen (orderly : Orderly start past base shown run) (distinct : base.Distinct)
    (lasts : base.Lasts) (stamps : RateTable.Lasts run.saves)
    (moved : run.move .reopen = some next) :
    next = { disk := run.disk,
             cache := ⟨run.cache.path, base.storing (run.saves.take shown)⟩ }
      ∧ Orderly start (⟨run, .reopen⟩ :: past) (base.storing (run.saves.take shown)) 0 next := by
  obtain ⟨written, shows⟩ := orderly.shows.writtenFor distinct lasts stamps
  cases moves_of_move moved with
  | reopen opened =>
      obtain rfl := written.eq_of_openAt opened
      exact ⟨rfl, orderly_of_shows (shows.cons _) rfl⟩

/-- What the file shows can be opened again. -/
theorem Orderly.move_reopen (orderly : Orderly start past base shown run)
    (distinct : base.Distinct) (lasts : base.Lasts) (stamps : RateTable.Lasts run.saves)
    (content : run.content? = some (render (base.storing (run.saves.take shown)))) :
    run.move .reopen = some { disk := run.disk,
                              cache := ⟨run.cache.path, base.storing (run.saves.take shown)⟩ } := by
  obtain ⟨written, _⟩ := orderly.shows.writtenFor distinct lasts stamps
  have read : run.disk.read run.cache.path
      = .ok (render (base.storing (run.saves.take shown))) := by
    rw [content?] at content
    cases read : run.disk.read run.cache.path with
    | error error =>
        rw [read] at content
        cases content
    | ok text =>
        rw [read] at content
        exact congrArg _ (Option.some.inj content)
  simp only [CacheRun.move, openAt_of_read written.distinct written.lasts read]

/-! ## Runs -/

theorem Move.lasts_saved (move : Move)
    (stamps : ∀ key rate, move = .save key rate → rate.savedAt.Lasts) :
    RateTable.Lasts move.saved := by
  cases move with
  | save key rate => exact List.forall_mem_singleton.mpr (stamps key rate rfl)
  | _ => exact List.forall_mem_nil _

/-- At no time two writings rely on the file beside the real one. -/
def Exclusive (past : CacheHistory) (run : CacheRun) : Prop :=
  (∀ moment ∈ past, moment.before.Apart) ∧ run.Apart

/-- The timestamps of all results that have been saved can be read from their own texts. -/
def Stamped (past : CacheHistory) : Prop :=
  ∀ moment ∈ past, ∀ key rate, moment.event = .save key rate → rate.savedAt.Lasts

/-- **A run in which the writings keep apart is in order at every moment.**  Only for opening the
file again the timestamps matter. -/
theorem orderly_of_reaches (written : WrittenFor disk path table)
    (reached : Reaches move { disk, cache := ⟨path, table⟩ } past run)
    (exclusive : Exclusive past run)
    (stamped : (∃ moment ∈ past, moment.event = .reopen) → Stamped past) :
    ∃ base shown, Orderly { disk, cache := ⟨path, table⟩ } past base shown run
      ∧ base.Distinct ∧ (Stamped past → base.Lasts ∧ RateTable.Lasts run.saves) := by
  induction reached with
  | start =>
      exact ⟨table, 0, orderly_of_shows (shows_of_writtenFor written) rfl, written.distinct,
        fun _ => ⟨written.lasts, List.forall_mem_nil _⟩⟩
  | @step past run next event earlier moved ih =>
      obtain ⟨before, apartNext⟩ := exclusive
      obtain ⟨apart, beforeEarlier⟩ := List.forall_mem_cons.mp before
      have fewer (all : Stamped (⟨run, event⟩ :: past)) : Stamped past :=
        (List.forall_mem_cons.mp all).2
      obtain ⟨base, shown, orderly, distinct, lasts⟩ := ih ⟨beforeEarlier, apart⟩ fun again =>
        fewer (stamped (again.imp fun _ found => ⟨List.mem_cons_of_mem _ found.1, found.2⟩))
      by_cases again : event = .reopen
      · subst again
        have all := fewer (stamped ⟨_, List.mem_cons_self, rfl⟩)
        obtain ⟨rfl, orderlyNext⟩ := orderly.reopen distinct (lasts all).1 (lasts all).2 moved
        obtain ⟨writtenNext, _⟩ := orderly.shows.writtenFor distinct (lasts all).1 (lasts all).2
        exact ⟨_, 0, orderlyNext, writtenNext.distinct,
          fun _ => ⟨writtenNext.lasts, List.forall_mem_nil _⟩⟩
      · obtain ⟨shownNext, orderlyNext⟩ := orderly.step moved again apart apartNext
        refine ⟨base, shownNext, orderlyNext, distinct, fun all => ⟨(lasts (fewer all)).1, ?_⟩⟩
        rw [(memory_of_move moved again).1]
        refine List.forall_mem_append.mpr ⟨(lasts (fewer all)).2, ?_⟩
        exact event.lasts_saved (all _ List.mem_cons_self)

end CacheRun

end WalletTopUp
