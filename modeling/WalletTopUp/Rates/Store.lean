import WalletTopUp.Rates.File

/-!
# Stores of rates

Where the results of conversions are kept: nowhere, in memory, in a file, or in a place that
refuses.
-/

namespace WalletTopUp

/-- What keeps the results of conversions. -/
inductive RateStore where
  | nowhere
  | memory (table : RateTable)
  | file (cache : FileCache) (disk : Disk)
  /-- A store that refuses every write.  What cannot be read either is refused as well. -/
  | refusing (readable : Bool)
deriving Inhabited

namespace RateStore

/-- Whether there is a store at all. -/
def isStore : RateStore → Bool
  | nowhere => false
  | _ => true

/-- Store a result. -/
def save (store : RateStore) (key : RateKey) (rate : CachedRate) :
    Except CacheError Unit × RateStore :=
  match store with
  | nowhere => (.ok (), nowhere)
  | memory table => (.ok (), memory (table.insert key rate))
  | file cache disk =>
    let (result, later, disk) := cache.save disk key rate
    (result, file later disk)
  | refusing readable => (.error (.io "the store cannot be written"), refusing readable)

/-- The result stored under a key. -/
def load (store : RateStore) (key : RateKey) : Except CacheError (Option CachedRate) :=
  match store with
  | nowhere => .ok none
  | memory table => .ok (table.find? key)
  | file cache _ => .ok (cache.load key)
  | refusing true => .ok none
  | refusing false => .error (.io "the store cannot be read")

/-- Give up what is held in memory and open the store again. -/
def reopen (store : RateStore) : Except CacheError RateStore :=
  match store with
  | memory _ => .ok (memory [])
  | file cache disk => (FileCache.openAt disk cache.path).map fun opened => file opened disk
  | other => .ok other

/-- The text of the file. -/
def content? : RateStore → Option String
  | file cache disk => (disk.read cache.path).toOption
  | _ => none

/-- Whether the file that is written first has been left behind. -/
def hasTemp : RateStore → Bool
  | file cache disk => disk.contains (FileCache.tempPath cache.path)
  | _ => false

end RateStore

end WalletTopUp
