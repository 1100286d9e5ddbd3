import WalletTopUp.Proofs.Rates.Persistence

/-!
# Saves whose callers are dropped

A caller that is dropped gives up the lock while its last operation on the disk is still carried
out.  As long as such an operation and the writings of others do not rely on the file beside the
real one at the same time, the real file stays complete and keeps every save that has returned well
(`CacheRun.aborted_saves_harmless`).  That is so if callers are dropped only while the directory is
being created or when nothing has been handed over (`CacheRun.exclusive_of_early`).  An operation
that opens the file beside the real one too late damages the real file
(`CacheRun.late_opening_empties_file`).
-/

namespace WalletTopUp

open Disk FileCache

namespace CacheRun

variable {start run next : CacheRun} {past : CacheHistory} {table : RateTable} {path : String}
  {disk : Disk} {move : Move} {writing : Writing} {others : List Writing}

/-! ## Writings that keep apart -/

/-- **Saves that are given up do no harm** while at most one writing at a time relies on the file
beside the real one: the file is absent or complete, and it keeps every save that has returned
well. -/
theorem aborted_saves_harmless {cache : FileCache} (opened : openAt disk path = .ok cache)
    (written : WrittenFor disk path table)
    (stillOpen : ∀ moment ∈ past, moment.event ≠ .reopen)
    (reached : Reaches CacheRun.move { disk, cache } past run)
    (exclusive : Exclusive past run) :
    (run.content? = none
      ∨ ∃ shown, run.content? = some (render shown) ∧ Snapshot { disk, cache } past shown)
    ∧ ∀ number ∈ returned past, ∃ shown, run.content? = some (render shown)
        ∧ shown.Keeps run.saves number := by
  obtain rfl := written.eq_of_openAt opened
  obtain ⟨base, shown, orderly, _⟩ := orderly_of_reaches written reached exclusive fun again => by
    obtain ⟨moment, member, reopens⟩ := again
    exact absurd reopens (stillOpen moment member)
  refine ⟨?_, fun number well => ?_⟩
  · rcases orderly.content?_eq with ⟨content, _⟩ | ⟨content, snapshot⟩
    · exact .inl content
    · exact .inr ⟨_, content, snapshot⟩
  · obtain ⟨content, keeps⟩ := orderly.keeps_of_returned well
    exact ⟨_, content, keeps number le_rfl⟩

/-! ## Callers that are dropped early -/

/-- Callers are dropped only while their directory is being created, or when nothing has been handed
over. -/
def Early (past : CacheHistory) : Prop :=
  ∀ moment ∈ past, moment.event = .abort → ∀ writing ∈ moment.before.holder,
    writing.flush.isPooled = true → ∃ text, writing.flush = .makeDirectory text

/-- Writings that only create their directory. -/
def OnlyCreate (others : List Writing) : Prop :=
  ∀ other ∈ others, ∃ text, other.flush = .makeDirectory text

theorem OnlyCreate.unused (only : OnlyCreate others) :
    ∀ other ∈ others, other.flush.usesTemp = false := by
  intro other member
  obtain ⟨text, creates⟩ := only other member
  rw [creates]
  rfl

theorem OnlyCreate.passBy_eq (only : OnlyCreate others) (before after : Flush) :
    passBy path disk before after others = others :=
  CacheRun.passBy_eq fun other member uses => by
    cases uses.symm.trans (only.unused other member)

theorem OnlyCreate.leaving (only : OnlyCreate others)
    (creates : writing.flush.isPooled = true → ∃ text, writing.flush = .makeDirectory text) :
    OnlyCreate (leaving writing others) := by
  intro other member
  rcases mem_leaving member with member | ⟨rfl, pooled⟩
  · exact only other member
  · exact creates pooled

/-- What is left of writings whose callers are dropped early only creates directories. -/
theorem OnlyCreate.of_move (only : OnlyCreate run.left)
    (early : move = .abort → ∀ writing ∈ run.holder,
      writing.flush.isPooled = true → ∃ text, writing.flush = .makeDirectory text)
    (moved : run.move move = some next) : OnlyCreate next.left := by
  cases moves_of_move moved with
  | save => exact only
  | lock => exact only
  | @work writing stroke =>
      change OnlyCreate (passBy run.cache.path run.disk writing.flush _ run.left)
      rw [only.passBy_eq]
      exact only
  | finish => exact only
  | @abort writing held => exact only.leaving (early rfl writing held)
  | leave => exact only
  | @workLeft index writing stroke found =>
      have others : OnlyCreate (run.left.eraseIdx index) :=
        fun other member => only other (List.mem_of_mem_eraseIdx member)
      have stepped := Flush.stepped run.cache.path stroke run.disk writing.flush
      change OnlyCreate (CacheRun.leaving
        { writing with flush := (writing.flush.step run.cache.path stroke run.disk).2 }
        (passBy run.cache.path run.disk writing.flush _ (run.left.eraseIdx index)))
      rw [others.passBy_eq]
      refine others.leaving fun pooled => ?_
      exact stepped.makeDirectory_of_isPooled (only writing (List.mem_of_getElem? found)) pooled
  | reopen => exact List.forall_mem_nil _

/-- **Callers that are dropped early leave nothing that relies on the file beside the real one.** -/
theorem exclusive_of_early (alone : start.left = []) (early : Early past)
    (reached : Reaches CacheRun.move start past run) : Exclusive past run := by
  have only {past : CacheHistory} {run : CacheRun} (early : Early past)
      (reached : Reaches CacheRun.move start past run) : OnlyCreate run.left := by
    induction reached with
    | start =>
        rw [alone]
        exact List.forall_mem_nil _
    | step _ moved ih =>
        obtain ⟨last, before⟩ := List.forall_mem_cons.mp early
        exact (ih before).of_move last moved
  have apart {run : CacheRun} (only : OnlyCreate run.left) : run.Apart := by
    have left : Separate run.left :=
      List.pairwise_of_forall_mem_list fun first inside _ _ both => by
        cases both.1.symm.trans (only.unused first inside)
    rw [Apart, writings]
    cases run.holder with
    | none => exact left
    | some writing =>
        refine separate_cons.mpr ⟨fun other member uses => ?_, left⟩
        cases uses.symm.trans (only.unused other member)
  refine ⟨fun moment member => ?_, apart (only early reached)⟩
  obtain ⟨earlier, _, suffix, reachedEarlier, _⟩ := reached.exists_of_mem member
  refine apart (only (fun other inside => ?_) reachedEarlier)
  exact early other (suffix.subset (List.mem_cons_of_mem _ inside))

/-! ## Operations that come too late -/

namespace Sample

/-- A save is given up when its operation that opens the file beside the real one has been handed
over. -/
def givenUp : List Move :=
  [.save (record 10 1 250).key (record 10 1 250).rate, .lock, .work .whole, .work .whole, .abort]

/-- Another save is made from beginning to end before the operation that is left is carried out. -/
def oneAfterTheOther : List Move :=
  givenUp ++ Move.wholeSave (record 2 0 500).key (record 2 0 500).rate
    ++ [Move.workLeft 0 .whole, .workLeft 0 .whole]

/-- The operation that is left opens the file beside the real one when another save has written it
and is about to put it in the place of the real one. -/
def lateOpening : List Move :=
  givenUp ++ [Move.save (record 2 0 500).key (record 2 0 500).rate, .lock]
    ++ List.replicate 5 (.work .whole) ++ [Move.workLeft 0 .whole, .work .whole, .finish]

end Sample

theorem aborted_saves_harmless_of_disjoint :
    ∃ past run,
      Reaches CacheRun.move Sample.fresh past run
        ∧ .abort ∈ past.map Moment.event
        ∧ returned past = [1]
        ∧ ∃ shown, run.content? = some (render shown) ∧ shown.Keeps run.saves 1 := by
  have checked : ∃ result ∈ Reaches.follow CacheRun.move Sample.fresh Sample.oneAfterTheOther,
      (∀ moment ∈ result.1, moment.event ≠ .reopen ∧ moment.before.Apart)
        ∧ result.2.Apart
        ∧ .abort ∈ result.1.map Moment.event
        ∧ returned result.1 = [1] := by decide +kernel
  obtain ⟨⟨past, run⟩, followed, events, apart, aborts, well⟩ := checked
  have reached := Reaches.of_follow followed
  have harmless := aborted_saves_harmless Sample.opened Sample.nothingWritten
    (fun moment member => (events moment member).1) reached
    ⟨fun moment member => (events moment member).2, apart⟩
  exact ⟨past, run, reached, aborts, well, harmless.2 1 (well ▸ List.mem_cons_self)⟩

/-- The first save is given up, and the second one returns well.  Then the real file is empty, which
is no table, and it cannot be opened. -/
theorem late_opening_empties_file :
    ∃ past run,
      Reaches CacheRun.move Sample.fresh past run
        ∧ run.saves = [Sample.record 10 1 250, Sample.record 2 0 500]
        ∧ returned past = [1]
        ∧ run.content? = some "" ∧ parse? "" = none
        ∧ run.move .reopen = none := by
  have checked : ∃ result ∈ Reaches.follow CacheRun.move Sample.fresh Sample.lateOpening,
      result.2.saves = [Sample.record 10 1 250, Sample.record 2 0 500]
        ∧ returned result.1 = [1]
        ∧ result.2.content? = some "" ∧ parse? "" = none
        ∧ result.2.move .reopen = none := by decide +kernel
  obtain ⟨⟨past, run⟩, followed, damaged⟩ := checked
  exact ⟨past, run, Reaches.of_follow followed, damaged⟩

end CacheRun

end WalletTopUp
