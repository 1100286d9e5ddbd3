import WalletTopUp.Proofs.Rates.Moves
import WalletTopUp.Proofs.Rates.Records

/-!
# What the file of a run shows

As long as at most one writing relies on the file beside the real one, the real file holds the table
after some number of the saves since it was opened, and that number never falls.  It has passed
every save that has returned well, and a writing that has the lock brings at least as many
(`CacheRun.Orderly`).  Every move but opening the file again keeps it so (`CacheRun.Orderly.step`).
-/

namespace WalletTopUp

open Disk FileCache

/-- What has happened to a file of rates, the latest move first. -/
abbrev CacheHistory := List (Moment CacheRun CacheRun.Move)

namespace CacheRun

variable {start run next : CacheRun} {past : CacheHistory} {base : RateTable} {shown : Nat}
  {saves : List RateRecord} {path : String} {disk later : Disk} {flush : Flush}
  {writing : Writing} {others : List Writing}

/-! ## Histories -/

/-- The table that a call to save leaves. -/
def savedTable? : Moment CacheRun Move → Option RateTable
  | ⟨run, .save key rate⟩ => some (run.store key rate).cache.table
  | _ => none

/-- A table that was in the file at the start, or that has been there after a call to save. -/
def Snapshot (start : CacheRun) (past : CacheHistory) (table : RateTable) : Prop :=
  start.content? = some (render table) ∨ ∃ moment ∈ past, savedTable? moment = some table

/-- A table that has been there stays one that has been there. -/
theorem Snapshot.cons {table : RateTable} (snapshot : Snapshot start past table)
    (moment : Moment CacheRun Move) : Snapshot start (moment :: past) table := by
  rcases snapshot with same | ⟨earlier, member, saved⟩
  · exact .inl same
  · exact .inr ⟨earlier, List.mem_cons_of_mem _ member, saved⟩

/-- The table after any number of the saves has been there after a call to save. -/
def Logged (start : CacheRun) (past : CacheHistory) (base : RateTable)
    (saves : List RateRecord) : Prop :=
  ∀ count, 0 < count → count ≤ saves.length →
    Snapshot start past (base.storing (saves.take count))

/-- Tables that have been there stay ones that have been there. -/
theorem Logged.cons (logged : Logged start past base saves) (moment : Moment CacheRun Move) :
    Logged start (moment :: past) base saves :=
  fun count positive within => (logged count positive within).cons moment

/-- The numbers of the saves that have returned well since the file was opened. -/
def returned : CacheHistory → List Nat
  | [] => []
  | ⟨run, .finish⟩ :: past =>
    ((run.holder.filter (·.flush = .finished)).map Writing.save).toList ++ returned past
  | ⟨_, .reopen⟩ :: _ => []
  | _ :: past => returned past

/-! ## What a writing brings -/

/-- What a writing keeps to: it writes the table after the saves it has seen, its own among them. -/
structure Fits (base : RateTable) (saves : List RateRecord) (path : String) (disk : Disk)
    (writing : Writing) : Prop where
  save : writing.save < writing.seen
  seen : writing.seen ≤ saves.length
  writes : writing.flush.Writes path disk (render (base.storing (saves.take writing.seen)))

/-- A further save leaves what a writing has seen. -/
theorem Fits.saves_append (fits : Fits base saves path disk writing) (record : RateRecord) :
    Fits base (saves ++ [record]) path disk writing where
  save := fits.save
  seen := fits.seen.trans (by simp)
  writes := by
    rw [List.take_append_of_le_length fits.seen]
    exact fits.writes

/-- A writing keeps to its table with every stroke of its own. -/
theorem Fits.step (fits : Fits base saves path disk writing)
    (stepped : Flush.Stepped path disk writing.flush later flush) :
    Fits base saves path later { writing with flush } where
  save := fits.save
  seen := fits.seen
  writes := fits.writes.step stepped

/-- A writing keeps to its table while another one strokes, as long as they do not share the
temporary file. -/
theorem Fits.beside {other : Writing} (fits : Fits base saves path disk other)
    (stepped : Flush.Stepped path disk writing.flush later flush)
    (apart : other.flush.usesTemp = true →
      writing.flush.usesTemp = false ∧ flush.usesTemp = false) :
    Fits base saves path later other where
  save := fits.save
  seen := fits.seen
  writes := fits.writes.beside stepped apart

/-! ## What the file shows -/

/-- The file holds the table after so many of the saves, which was there at the start or after a
call to save.  If there is no file yet no save counts, and none was there to be opened. -/
inductive Shows (start : CacheRun) (past : CacheHistory) (base : RateTable)
    (saves : List RateRecord) (path : String) (disk : Disk) (shown : Nat) : Prop
  | missing : base = [] → shown = 0 →
      (∀ content, disk.node? (landingOf path) ≠ some (.file content)) →
      Shows start past base saves path disk shown
  | file : disk.Leads path →
      disk.node? (landingOf path) = some (.file (render (base.storing (saves.take shown)))) →
      Snapshot start past (base.storing (saves.take shown)) →
      Shows start past base saves path disk shown

/-- What the file shows has been there, whatever happens next. -/
theorem Shows.cons (shows : Shows start past base saves path disk shown)
    (moment : Moment CacheRun Move) : Shows start (moment :: past) base saves path disk shown := by
  cases shows with
  | missing empty none missing => exact .missing empty none missing
  | file leads file snapshot => exact .file leads file (snapshot.cons moment)

/-- A further save leaves what the file shows. -/
theorem Shows.saves_append (shows : Shows start past base saves path disk shown)
    (within : shown ≤ saves.length) (record : RateRecord) :
    Shows start past base (saves ++ [record]) path disk shown := by
  have same : (saves ++ [record]).take shown = saves.take shown :=
    List.take_append_of_le_length within
  cases shows with
  | missing empty none missing => exact .missing empty none missing
  | file leads file snapshot => exact .file leads (same ▸ file) (same ▸ snapshot)

/-- A file that is kept shows what it showed. -/
theorem Shows.kept (shows : Shows start past base saves path disk shown)
    (keeps : Flush.KeepsFile path disk later) :
    Shows start past base saves path later shown := by
  cases shows with
  | missing empty none missing =>
      exact .missing empty none fun content there => missing content ((keeps.file content).mp there)
  | file leads file snapshot => exact .file (keeps.leads leads) ((keeps.file _).mpr file) snapshot

/-- The file that is kept is read as before. -/
theorem Shows.read_kept (shows : Shows start past base saves path disk shown)
    (keeps : Flush.KeepsFile path disk later) :
    (later.read path).toOption = (disk.read path).toOption := by
  refine Option.ext fun content => ?_
  have read (disk : Disk) : (disk.read path).toOption = some content
      ↔ disk.Leads path ∧ disk.node? (landingOf path) = some (.file content) := by
    rw [← read_eq_ok_iff]
    cases disk.read path <;> simp [Except.toOption]
  rw [read, read, keeps.file]
  cases shows with
  | missing _ _ missing =>
      exact iff_of_false (fun both => missing content both.2) fun both => missing content both.2
  | file leads => exact and_congr_left' (iff_of_true (keeps.leads leads) leads)

/-- **A step leaves what the file shows, or the file shows the saves that the writing has seen.** -/
theorem Shows.step (shows : Shows start past base saves path disk shown)
    (fits : Fits base saves path disk writing)
    (stepped : Flush.Stepped path disk writing.flush later flush)
    (seen : Snapshot start past (base.storing (saves.take writing.seen))) :
    (Shows start past base saves path later shown ∧ (flush = .finished → writing.flush = .finished))
      ∨ (Shows start past base saves path later writing.seen
        ∧ writing.flush = .replace ∧ flush = .finished) := by
  rcases fits.writes.keepsFile_or_replaces stepped with ⟨keeps, ends⟩ | replaces
  · exact .inl ⟨shows.kept keeps, ends⟩
  · exact .inr ⟨.file replaces.leads replaces.file seen, replaces.before, replaces.after⟩

/-! ## The invariant -/

/-- What holds at every moment of a run while the file stays open: the file shows the table after
`shown` of the saves that have been stored onto the table it was opened with. -/
structure Orderly (start : CacheRun) (past : CacheHistory) (base : RateTable) (shown : Nat)
    (run : CacheRun) : Prop where
  table : run.cache.table = base.storing run.saves
  waiting : ∀ number ∈ run.waiting, number < run.saves.length
  within : shown ≤ run.saves.length
  shows : Shows start past base run.saves run.cache.path run.disk shown
  fits : ∀ writing ∈ run.writings, Fits base run.saves run.cache.path run.disk writing
  /-- The file shows what has been written for a save that has come to a good end. -/
  finished : ∀ writing ∈ run.holder, writing.flush = .finished → writing.seen ≤ shown
  /-- The writing that has the lock brings no older table. -/
  ahead : ∀ writing ∈ run.holder, writing.flush.hasEnded = false → shown ≤ writing.seen
  pooled : ∀ other ∈ run.left, other.flush.isPooled = true
  /-- Nor does one that is left and is going to replace the file. -/
  replacing : ∀ other ∈ run.left, other.flush = .replace → shown ≤ other.seen
  overtaken : ∀ writing ∈ run.holder, ∀ other ∈ run.left, other.seen ≤ writing.seen
  returned : ∀ number ∈ returned past, number < shown
  logged : Logged start past base run.saves

namespace Orderly

variable {move : Move} {stroke : Stroke}

/-! ## Moves that leave the disk alone -/

/-- Storing a rate keeps the invariant; its writing queues up behind the others. -/
theorem store (orderly : Orderly start past base shown run) (key : RateKey) (rate : CachedRate) :
    Orderly start (⟨run, .save key rate⟩ :: past) base shown (run.store key rate) where
  table := by
    change run.cache.table.insert key rate = base.storing (run.saves ++ [⟨key, rate⟩])
    rw [RateTable.storing_concat, orderly.table]
  waiting number member := by
    have length : (run.store key rate).saves.length = run.saves.length + 1 := List.length_append
    rw [length]
    rcases List.mem_append.mp member with earlier | last
    · exact Nat.lt_succ_of_lt (orderly.waiting number earlier)
    · rw [List.mem_singleton.mp last]
      exact Nat.lt_succ_self _
  within := orderly.within.trans (by simp [CacheRun.store])
  shows := (orderly.shows.cons _).saves_append orderly.within _
  fits writing member := (orderly.fits writing member).saves_append _
  finished := orderly.finished
  ahead := orderly.ahead
  pooled := orderly.pooled
  replacing := orderly.replacing
  overtaken := orderly.overtaken
  returned := orderly.returned
  logged count positive within := by
    have length : (run.store key rate).saves.length = run.saves.length + 1 := List.length_append
    rw [length] at within
    change Snapshot start (⟨run, .save key rate⟩ :: past)
      (base.storing ((run.saves ++ [(⟨key, rate⟩ : RateRecord)]).take count))
    rcases Nat.lt_or_eq_of_le within with earlier | rfl
    · rw [List.take_append_of_le_length (Nat.le_of_lt_succ earlier)]
      exact (orderly.logged count positive (Nat.le_of_lt_succ earlier)).cons _
    · rw [List.take_of_length_le (by simp), RateTable.storing_concat, ← orderly.table]
      exact .inr ⟨⟨run, .save key rate⟩, List.mem_cons_self, rfl⟩

/-- A writing that gets the lock sees every save so far, so it keeps the invariant. -/
theorem lock (orderly : Orderly start past base shown run) {number : Nat} {rest : List Nat}
    (line : run.waiting = number :: rest) :
    Orderly start (⟨run, .lock⟩ :: past) base shown
      { run with
        waiting := rest
        holder := some ⟨number, run.saves.length, .begin run.cache.path run.cache.table⟩ } :=
  { orderly with
    waiting := fun other member =>
      orderly.waiting other (line ▸ List.mem_cons_of_mem number member)
    shows := orderly.shows.cons _
    fits := by
      intro writing member
      rcases List.mem_cons.mp member with rfl | member
      · refine ⟨orderly.waiting number (line ▸ List.mem_cons_self), le_rfl, ?_⟩
        rw [List.take_length, ← orderly.table]
        exact Flush.writes_begin ..
      · exact orderly.fits writing (List.mem_append_right _ member)
    finished := by
      intro writing held ended
      obtain rfl := Option.some.inj held
      rw [Flush.begin] at ended
      split at ended <;> cases ended
    ahead := by
      intro writing held _
      obtain rfl := Option.some.inj held
      exact orderly.within
    overtaken := by
      intro writing held other member
      obtain rfl := Option.some.inj held
      exact (orderly.fits other (List.mem_append_right _ member)).seen
    logged := orderly.logged.cons _ }

/-- A writing that ends well has put its table into the file. -/
theorem finish (orderly : Orderly start past base shown run) {writing : Writing}
    (held : run.holder = some writing) :
    Orderly start (⟨run, .finish⟩ :: past) base shown { run with holder := none } :=
  { orderly with
    shows := orderly.shows.cons _
    fits := fun writing member => orderly.fits writing (List.mem_append_right _ member)
    finished := nofun
    ahead := nofun
    overtaken := nofun
    returned := by
      intro number member
      rcases List.mem_append.mp member with now | earlier
      · rw [held, Option.mem_toList] at now
        obtain ⟨_, same, rfl⟩ := Option.map_eq_some_iff.mp now
        obtain ⟨same, ended⟩ := Option.filter_eq_some_iff.mp same
        obtain rfl := Option.some.inj same
        have member : writing ∈ run.writings :=
          List.mem_append_left _ (Option.mem_toList.mpr held)
        exact (orderly.fits writing member).save.trans_le
          (orderly.finished writing held (of_decide_eq_true ended))
      · exact orderly.returned number earlier
    logged := orderly.logged.cons _ }

/-- An abort keeps the invariant; what the writing had begun is left to go on. -/
theorem abort (orderly : Orderly start past base shown run) {writing : Writing}
    (held : run.holder = some writing) :
    Orderly start (⟨run, .abort⟩ :: past) base shown
      { run with holder := none, left := leaving writing run.left } :=
  { orderly with
    shows := orderly.shows.cons _
    fits := by
      intro other member
      refine orderly.fits other ?_
      rcases mem_leaving member with member | ⟨rfl, _⟩
      · exact List.mem_append_right _ member
      · exact List.mem_append_left _ (Option.mem_toList.mpr held)
    finished := nofun
    ahead := nofun
    pooled := by
      intro other member
      rcases mem_leaving member with member | ⟨rfl, pooled⟩
      · exact orderly.pooled other member
      · exact pooled
    replacing := by
      intro other member replaces
      rcases mem_leaving member with member | ⟨rfl, _⟩
      · exact orderly.replacing other member replaces
      · exact orderly.ahead other held (by rw [replaces]; rfl)
    overtaken := nofun
    logged := orderly.logged.cons _ }

/-- A writing that leaves the line keeps the invariant. -/
theorem leave (orderly : Orderly start past base shown run) (number : Nat) :
    Orderly start (⟨run, .leave number⟩ :: past) base shown
      { run with waiting := run.waiting.erase number } :=
  { orderly with
    waiting := fun other member => orderly.waiting other (List.mem_of_mem_erase member)
    shows := orderly.shows.cons _
    logged := orderly.logged.cons _ }

/-! ## Moves of the disk -/

/-- What holds of the writing that has the lock holds of every writing that has it. -/
theorem forall_held {holds : Writing → Prop} (own : holds writing) :
    ∀ other ∈ some writing, holds other := by
  rintro _ ⟨⟩
  exact own

/-- The table that a writing has seen has been there after a call to save. -/
theorem seen_logged (orderly : Orderly start past base shown run)
    (fits : Fits base run.saves run.cache.path run.disk writing) :
    Snapshot start past (base.storing (run.saves.take writing.seen)) :=
  orderly.logged _ (Nat.zero_lt_of_lt fits.save) fits.seen

/-- A stroke of the writing that has the lock keeps the invariant, and what the file shows may grow
by it. -/
theorem proceed (orderly : Orderly start past base shown run) (held : run.holder = some writing)
    (apart : run.Apart) (apartNext : (run.proceed writing stroke).Apart) :
    ∃ shown', Orderly start (⟨run, .work stroke⟩ :: past) base shown'
      (run.proceed writing stroke) := by
  have stepped := Flush.stepped run.cache.path stroke run.disk writing.flush
  unfold CacheRun.proceed at apartNext ⊢
  generalize writing.flush.step run.cache.path stroke run.disk = result at stepped apartNext ⊢
  obtain ⟨later, flush⟩ := result
  simp only at stepped apartNext ⊢
  have separate : Separate (writing :: run.left) := by
    rw [Apart, writings, held] at apart
    exact apart
  have unused := (separate_cons.mp separate).1
  rw [passBy_eq unused] at apartNext ⊢
  have clear := separate.clear (fun _ => apartNext) stepped
  have fits : Fits base run.saves run.cache.path run.disk writing :=
    orderly.fits writing (List.mem_append_left _ (Option.mem_toList.mpr held))
  have fitsAll : ∀ other ∈ { writing with flush } :: run.left,
      Fits base run.saves run.cache.path later other := by
    refine List.forall_mem_cons.mpr ⟨fits.step stepped, fun other member => ?_⟩
    exact (orderly.fits other (List.mem_append_right _ member)).beside stepped (clear other member)
  have overtaken : ∀ other ∈ run.left, other.seen ≤ writing.seen := orderly.overtaken writing held
  rcases orderly.shows.step fits stepped (orderly.seen_logged fits) with
    ⟨shows, ends⟩ | ⟨shows, replacing, rfl⟩
  · refine ⟨shown, { orderly with
      shows := shows.cons _
      fits := fitsAll
      finished := ?_
      ahead := ?_
      overtaken := forall_held overtaken
      logged := orderly.logged.cons _ }⟩
    · exact forall_held fun finished =>
        orderly.finished writing held (ends finished)
    · refine forall_held fun goesOn => ?_
      refine orderly.ahead writing held (Bool.eq_false_iff.mpr fun ended => ?_)
      cases goesOn.symm.trans (stepped.hasEnded ended)
  · have ahead : shown ≤ writing.seen := orderly.ahead writing held (by rw [replacing]; rfl)
    refine ⟨writing.seen, { orderly with
      within := fits.seen
      shows := shows.cons _
      fits := fitsAll
      finished := forall_held fun _ => le_rfl
      ahead := forall_held nofun
      replacing := ?_
      overtaken := forall_held overtaken
      returned := fun number member => (orderly.returned number member).trans_le ahead
      logged := orderly.logged.cons _ }⟩
    intro other member replaces
    have both := unused other member (by rw [replaces]; rfl)
    rw [replacing] at both
    cases both

/-- A stroke of a writing that has been left to itself keeps the invariant as long as it does not
share the temporary file. -/
theorem proceedLeft (orderly : Orderly start past base shown run) {index : Nat}
    (found : run.left[index]? = some writing) (apart : run.Apart)
    (apartNext : (run.proceedLeft index writing stroke).Apart) :
    ∃ shown', Orderly start (⟨run, .workLeft index stroke⟩ :: past) base shown'
      (run.proceedLeft index writing stroke) := by
  have stepped := Flush.stepped run.cache.path stroke run.disk writing.flush
  unfold CacheRun.proceedLeft at apartNext ⊢
  generalize writing.flush.step run.cache.path stroke run.disk = result at stepped apartNext ⊢
  obtain ⟨later, flush⟩ := result
  simp only at stepped apartNext ⊢
  have inside : writing ∈ run.left := List.mem_of_getElem? found
  have rest : ∀ other ∈ run.left.eraseIdx index, other ∈ run.left :=
    fun other => List.mem_of_mem_eraseIdx
  have order : run.writings.Perm (writing :: (run.holder.toList ++ run.left.eraseIdx index)) := by
    obtain ⟨bound, rfl⟩ := List.getElem?_eq_some_iff.mp found
    exact ((List.getElem_cons_eraseIdx_perm bound).symm.append_left _).trans List.perm_middle
  have separate : Separate (writing :: (run.holder.toList ++ run.left.eraseIdx index)) :=
    apart.perm order
  have unused := (separate_cons.mp separate).1
  have same : run.holder.toList.head? = run.holder := by cases run.holder <;> rfl
  rw [passBy_eq fun other member => unused other (List.mem_append_left _ member),
    passBy_eq fun other member => unused other (List.mem_append_right _ member), same]
    at apartNext ⊢
  have clear := separate.clear
    (fun pooled => by
      rw [leaving, if_pos pooled] at apartNext
      exact apartNext.perm List.perm_middle) stepped
  have fits : Fits base run.saves run.cache.path run.disk writing :=
    orderly.fits writing (List.mem_append_right _ inside)
  have fitsOthers : ∀ other ∈ run.holder.toList ++ run.left.eraseIdx index,
      Fits base run.saves run.cache.path later other := by
    intro other member
    have earlier : other ∈ run.writings := order.mem_iff.mpr (List.mem_cons_of_mem _ member)
    exact (orderly.fits other earlier).beside stepped (clear other member)
  have fitsAll : ∀ other ∈ run.holder.toList
        ++ leaving { writing with flush } (run.left.eraseIdx index),
      Fits base run.saves run.cache.path later other := by
    intro other member
    rcases List.mem_append.mp member with held | member
    · exact fitsOthers other (List.mem_append_left _ held)
    · rcases mem_leaving member with member | ⟨rfl, _⟩
      · exact fitsOthers other (List.mem_append_right _ member)
      · exact fits.step stepped
  have pooled : ∀ other ∈ leaving { writing with flush } (run.left.eraseIdx index),
      other.flush.isPooled = true := by
    intro other member
    rcases mem_leaving member with member | ⟨rfl, pooled⟩
    · exact orderly.pooled other (rest other member)
    · exact pooled
  have overtaken : ∀ held ∈ run.holder,
      ∀ other ∈ leaving { writing with flush } (run.left.eraseIdx index),
        other.seen ≤ held.seen := by
    intro held there other member
    rcases mem_leaving member with member | ⟨rfl, _⟩
    · exact orderly.overtaken held there other (rest other member)
    · exact orderly.overtaken held there writing inside
  -- Either the file goes on showing what it shows, or this operation replaces it: then it shows what
  -- this writing has seen, which is no less.
  rcases orderly.shows.step fits stepped (orderly.seen_logged fits) with
    ⟨shows, _⟩ | ⟨shows, replacing, rfl⟩
  · refine ⟨shown, { orderly with
      shows := shows.cons _
      fits := fitsAll
      pooled := pooled
      replacing := ?_
      overtaken := overtaken
      logged := orderly.logged.cons _ }⟩
    intro other member replaces
    rcases mem_leaving member with member | ⟨rfl, _⟩
    · exact orderly.replacing other (rest other member) replaces
    · -- Only the writing that has the lock hands over the operation that replaces the file.
      obtain rfl : flush = .replace := replaces
      have waits := orderly.pooled writing inside
      rw [stepped.eq_complete] at waits
      cases waits
  · have ahead : shown ≤ writing.seen := orderly.replacing writing inside replacing
    refine ⟨writing.seen, { orderly with
      within := fits.seen
      shows := shows.cons _
      fits := fitsAll
      finished := fun held there ends => (orderly.finished held there ends).trans ahead
      ahead := fun held there _ => orderly.overtaken held there writing inside
      pooled := pooled
      replacing := ?_
      overtaken := overtaken
      returned := fun number member => (orderly.returned number member).trans_le ahead
      logged := orderly.logged.cons _ }⟩
    intro other member replaces
    have uses : other.flush.usesTemp = true := by rw [replaces]; rfl
    have both := unused other (List.mem_append_right _ member) uses
    rw [replacing] at both
    cases both

/-! ## All moves -/

/-- **Every move while the file stays open keeps it so.** -/
theorem step (orderly : Orderly start past base shown run) (moved : run.move move = some next)
    (stillOpen : move ≠ .reopen) (apart : run.Apart) (apartNext : next.Apart) :
    ∃ shown', Orderly start (⟨run, move⟩ :: past) base shown' next := by
  cases moves_of_move moved with
  | save key rate => exact ⟨shown, orderly.store key rate⟩
  | lock _ line => exact ⟨shown, orderly.lock line⟩
  | work stroke held => exact orderly.proceed held apart apartNext
  | finish held => exact ⟨shown, orderly.finish held⟩
  | abort held => exact ⟨shown, orderly.abort held⟩
  | leave number => exact ⟨shown, orderly.leave number⟩
  | workLeft stroke found => exact orderly.proceedLeft found apart apartNext
  | reopen => exact absurd rfl stillOpen

end Orderly

/-! ## What the invariant says about the file -/

/-- There is no file, or it is the complete table that it shows. -/
theorem Orderly.content?_eq (orderly : Orderly start past base shown run) :
    (run.content? = none ∧ base = [] ∧ shown = 0)
      ∨ (run.content? = some (render (base.storing (run.saves.take shown)))
        ∧ Snapshot start past (base.storing (run.saves.take shown))) := by
  cases orderly.shows with
  | missing empty none missing =>
      refine .inl ⟨?_, empty, none⟩
      rw [content?]
      cases read : run.disk.read run.cache.path with
      | error error => rfl
      | ok content => exact absurd (read_eq_ok_iff.mp read).2 (missing content)
  | file leads file snapshot =>
      refine .inr ⟨?_, snapshot⟩
      rw [content?, read_eq_ok_iff.mpr ⟨leads, file⟩]
      rfl

/-- **A save that has returned well is in the file**, with the saves before it. -/
theorem Orderly.keeps_of_returned (orderly : Orderly start past base shown run) {number : Nat}
    (well : number ∈ CacheRun.returned past) :
    run.content? = some (render (base.storing (run.saves.take shown)))
      ∧ ∀ earlier ≤ number, (base.storing (run.saves.take shown)).Keeps run.saves earlier := by
  have passed := orderly.returned number well
  rcases orderly.content?_eq with ⟨_, _, none⟩ | ⟨content, _⟩
  · exact absurd (none ▸ passed) (Nat.not_lt_zero number)
  · exact ⟨content, fun earlier before =>
      RateTable.keeps_storing base run.saves (Nat.lt_of_le_of_lt before passed)⟩

end CacheRun

end WalletTopUp
