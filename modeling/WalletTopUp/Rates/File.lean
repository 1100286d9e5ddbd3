import WalletTopUp.Rates.Disk
import WalletTopUp.Rates.Table
import WalletTopUp.Service.Error

/-!
# Rates in a file

Stored rates that outlive the program.  Reading is served from memory.  Every change writes the
whole table into a file beside the real one, which then takes the place of the real one, so the real
file is never seen half written.
-/

namespace WalletTopUp

/-- Rates kept in a file. -/
structure FileCache where
  path : String
  table : RateTable := []
deriving DecidableEq, Inhabited

namespace FileCache

/-! ## Paths -/

/-- A path up to its last name, and that name. -/
def splitPath (path : String) : List String × Option String :=
  match (Disk.names path).reverse.dropWhile (fun name => name == "" || name == ".") with
  | [] => ([], none)
  | last :: before => (before.reverse, if last = ".." then none else some last)

/-- The directory that a path leads through. -/
def directory (path : String) : String :=
  String.intercalate "/" (splitPath path).1

/-- A name without what follows its last point.  A point at the start of a name does not count. -/
def stem (name : String) : String :=
  let kept := ['.'].intercalate (name.toList.splitOn '.').dropLast
  if kept.isEmpty then name else String.ofList kept

/-- The name of the file that is written before it takes the place of the one of this name. -/
def tempName (name : String) : String := stem name ++ ".json.tmp"

/-- The file that is written before it takes the place of the real one. -/
def tempPath (path : String) : String :=
  match splitPath path with
  | (_, none) => path
  | (before, some name) => String.intercalate "/" (before ++ [tempName name])

/-! ## Opening -/

/-- The text of a table. -/
def render (table : RateTable) : String := (Json.encode table).pretty

/-- The table that a text stands for. -/
def parse? (text : String) : Option RateTable :=
  (Json.Wire.parse? text : Option (List RateRecord)).map RateTable.ofRecords

/-- Open the file.  A missing file is an empty table. -/
def openAt (disk : Disk) (path : String) : Except CacheError FileCache :=
  match disk.read path with
  | .error .notFound => .ok { path }
  | .error .refused => .error (.io "the file cannot be read")
  | .ok text =>
    match parse? text with
    | none => .error (.json "not a list of records")
    | some table => .ok { path, table }

/-! ## Saving -/

/-- How far writing the file has got.  Every operation on the disk is handed to somebody who does
it, and waited for. -/
inductive Flush where
  /-- The directory of the file is being created. -/
  | makeDirectory (text : String)
  /-- The directory is there. -/
  | made (text : String)
  /-- The file beside the real one is going to be opened and written. -/
  | openTemp (text : String)
  /-- The file beside the real one is being written.  It has no place any more once another file has
  taken its place. -/
  | fill (place : Option (List String)) (written rest : List Char)
  /-- The file beside the real one has been written. -/
  | complete
  /-- It is going to take the place of the real one. -/
  | replace
  | finished
  | failed
deriving DecidableEq, Inhabited

/-- How an operation goes on. -/
inductive Stroke where
  /-- It is done. -/
  | whole
  /-- It gets on by so many names or characters. -/
  | part (count : Nat)
  /-- It fails, although nothing may speak against it. -/
  | fails
deriving DecidableEq, Inhabited

namespace Flush

/-- Begin to write a table.  A path without a directory needs none. -/
def begin (path : String) (table : RateTable) : Flush :=
  if (splitPath path).1.isEmpty then .openTemp (render table) else .makeDirectory (render table)

/-- Whether an operation has been handed over and is not done. -/
def isPooled : Flush → Bool
  | .makeDirectory _ | .openTemp _ | .fill _ _ _ | .replace => true
  | _ => false

/-- Whether there is nothing left to do. -/
def hasEnded : Flush → Bool
  | .finished | .failed => true
  | _ => false

/-- What the writing has come to. -/
def result : Flush → Except CacheError Unit
  | .finished => .ok ()
  | _ => .error (.io "the file cannot be written")

/-- The directory of the file has been created as far as that is possible. -/
def afterDirectory (path text : String) (disk : Disk) : Disk × Flush :=
  let (later, created) := disk.createFrom [] (Disk.names (directory path))
  (later, if created then .made text else .failed)

/-- The file beside the real one has been opened, if it can be. -/
def afterOpening (path text : String) (disk : Disk) : Disk × Flush :=
  match disk.truncate (tempPath path) with
  | .error _ => (disk, .failed)
  | .ok (later, place) => (later, .fill (some place) [] text.toList)

/-- The file beside the real one has taken its place, if it can. -/
def afterReplacing (path : String) (disk : Disk) : Disk × Flush :=
  match disk.rename (tempPath path) path with
  | .error _ => (disk, .failed)
  | .ok later => (later, .finished)

/-- Characters have been written into the file that is at a place. -/
def afterFilling (place : Option (List String)) (written added : List Char) (disk : Disk) : Disk :=
  place.elim disk fun place => disk.writeAt place written.length added

/-- Go on with the operation that is under way, or hand over the next one.  An operation that fails
ends the writing. -/
def step (path : String) (stroke : Stroke) (disk : Disk) (flush : Flush) : Disk × Flush :=
  match flush, stroke with
  | .made text, _ => (disk, .openTemp text)
  | .complete, _ => (disk, .replace)
  | .finished, _ => (disk, .finished)
  | .makeDirectory text, .part count =>
    ((disk.createFrom [] ((Disk.names (directory path)).take count)).1, .makeDirectory text)
  | .makeDirectory text, .whole => afterDirectory path text disk
  | .openTemp text, .part _ | .openTemp text, .whole => afterOpening path text disk
  | .fill place written rest, .part count =>
    (afterFilling place written (rest.take count) disk,
      .fill place (written ++ rest.take count) (rest.drop count))
  | .fill place written rest, .whole => (afterFilling place written rest disk, .complete)
  | .replace, .part _ | .replace, .whole => afterReplacing path disk
  | .failed, _ | _, .fails => (disk, .failed)

/-- Go on so many times without anything going wrong by itself. -/
def run (path : String) (disk : Disk) (flush : Flush) : Nat → Disk × Flush
  | 0 => (disk, flush)
  | steps + 1 =>
    let (later, next) := flush.step path .whole disk
    next.run path later steps

/-- The steps from the beginning to the end. -/
def stepCount : Nat := 6

end Flush

/-- Store a result and write the file.  When writing fails the result is still in memory. -/
def save (cache : FileCache) (disk : Disk) (key : RateKey) (rate : CachedRate) :
    Except CacheError Unit × FileCache × Disk :=
  let changed := { cache with table := cache.table.insert key rate }
  let (later, flush) :=
    (Flush.begin cache.path changed.table).run cache.path disk Flush.stepCount
  (flush.result, changed, later)

/-- The result stored under a key. -/
def load (cache : FileCache) (key : RateKey) : Option CachedRate := cache.table.find? key

end FileCache

end WalletTopUp
