import WalletTopUp.Rates.File

/-!
# Runs of a file of rates

A file of rates at work.  A call that saves a result stores it in memory, gets in line for the lock,
and then writes the whole table step by step.  Its caller may be dropped at any time, which gives up
the lock; an operation on the disk that has been handed over is carried out all the same.  The
program may stop at any time, and then it is only what stands on the disk that is left.

Taking what there is to write is one move: whoever gets the lock takes the table as it stands, with
all the saves so far and none of the later ones (`Writing.seen`).  The table behind it is a
concurrent map, and going through it while others save may show some of their entries and not the
rest.  What such a write misses belongs to calls that still wait for the lock, each of which writes
the whole table again in its turn.
-/

namespace WalletTopUp

/-- The writing of the file for a save. -/
structure Writing where
  /-- The number of the save. -/
  save : Nat
  /-- How many saves are in what is written. -/
  seen : Nat
  flush : FileCache.Flush
deriving DecidableEq, Inhabited

/-- A file of rates at work. -/
structure CacheRun where
  disk : Disk := {}
  cache : FileCache
  /-- What has been saved since the file was opened, in the order of the calls. -/
  saves : List RateRecord := []
  /-- The numbers of the saves that wait for the lock, in their order. -/
  waiting : List Nat := []
  /-- The writing that has the lock. -/
  holder : Option Writing := none
  /-- The writings whose callers are gone, each with an operation that has been handed over. -/
  left : List Writing := []
deriving DecidableEq, Inhabited

namespace CacheRun

/-- What can happen to a file of rates. -/
inductive Move where
  /-- A call to save a result. -/
  | save (key : RateKey) (rate : CachedRate)
  /-- The first in line gets the lock and takes what there is to write. -/
  | lock
  /-- The writing that has the lock goes on. -/
  | work (stroke : FileCache.Stroke)
  /-- The call that has the lock returns. -/
  | finish
  /-- The caller that has the lock is dropped. -/
  | abort
  /-- A caller that waits for the lock is dropped. -/
  | leave (number : Nat)
  /-- An operation goes on whose caller is gone. -/
  | workLeft (index : Nat) (stroke : FileCache.Stroke)
  /-- The program stops, and another one opens the file. -/
  | reopen
deriving DecidableEq, Inhabited

/-! ## Files that are open -/

/-- Another file has taken a place: a file that is open under its former name has moved with it, and
one that was open in the place has none any more. -/
def afterRename (path : String) (disk : Disk) (other : Writing) : Writing :=
  match other.flush, disk.place (FileCache.tempPath path), disk.place path with
  | .fill (some place) written rest, .ok temp, .ok target =>
    if place = temp then { other with flush := .fill (some target) written rest }
    else if place = target then { other with flush := .fill none written rest }
    else other
  | _, _, _ => other

/-- The other writings once one of them has made a step. -/
def passBy (path : String) (disk : Disk) (before after : FileCache.Flush)
    (others : List Writing) : List Writing :=
  if before = .replace ∧ after = .finished then others.map (afterRename path disk) else others

/-- The writings that are left, with one more if an operation of it has been handed over. -/
def leaving (writing : Writing) (others : List Writing) : List Writing :=
  if writing.flush.isPooled then writing :: others else others

/-! ## Moves -/

/-- The run after a call to save a result. -/
def store (run : CacheRun) (key : RateKey) (rate : CachedRate) : CacheRun :=
  { run with
    cache := { run.cache with table := run.cache.table.insert key rate }
    saves := run.saves ++ [⟨key, rate⟩]
    waiting := run.waiting ++ [run.saves.length] }

/-- The run after a step of the writing that has the lock. -/
def proceed (run : CacheRun) (writing : Writing) (stroke : FileCache.Stroke) : CacheRun :=
  let (later, flush) := writing.flush.step run.cache.path stroke run.disk
  { run with
    disk := later
    holder := some { writing with flush }
    left := passBy run.cache.path run.disk writing.flush flush run.left }

/-- The run after a step of a writing whose caller is gone.  There is none after the operation. -/
def proceedLeft (run : CacheRun) (index : Nat) (writing : Writing)
    (stroke : FileCache.Stroke) : CacheRun :=
  let (later, flush) := writing.flush.step run.cache.path stroke run.disk
  let pass := passBy run.cache.path run.disk writing.flush flush
  let others := pass (run.left.eraseIdx index)
  { run with
    disk := later
    holder := (pass run.holder.toList).head?
    left := leaving { writing with flush } others }

/-- The run after a move, `none` if the move is not possible. -/
def move (run : CacheRun) : Move → Option CacheRun
  | .save key rate => some (run.store key rate)
  | .lock =>
    match run.holder, run.waiting with
    | none, number :: rest =>
      some { run with
        waiting := rest
        holder := some ⟨number, run.saves.length, .begin run.cache.path run.cache.table⟩ }
    | _, _ => none
  | .work stroke => run.holder.map fun writing => run.proceed writing stroke
  | .finish =>
    run.holder.bind fun writing =>
      if writing.flush.hasEnded then some { run with holder := none } else none
  | .abort =>
    run.holder.map fun writing =>
      { run with
        holder := none
        left := leaving writing run.left }
  | .leave number => some { run with waiting := run.waiting.erase number }
  | .workLeft index stroke =>
    run.left[index]?.map fun writing => run.proceedLeft index writing stroke
  | .reopen =>
    match FileCache.openAt run.disk run.cache.path with
    | .error _ => none
    | .ok cache => some { disk := run.disk, cache }

/-- The text of the file. -/
def content? (run : CacheRun) : Option String := (run.disk.read run.cache.path).toOption

end CacheRun

end WalletTopUp
