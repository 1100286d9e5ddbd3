/-!
# A disk

The part of a file system that a file of stored rates needs: directories and text files under
relative paths.  A path is followed name by name, so a directory on the way has to exist even where
`..` leaves it again.
-/

namespace WalletTopUp

/-- What stands under a name. -/
inductive DiskNode where
  | directory
  | file (content : String)
deriving DecidableEq, Inhabited

/-- Why the disk refuses an operation. -/
inductive DiskError where
  /-- There is nothing under a name of the path. -/
  | notFound
  /-- The operation does not go with what is there. -/
  | refused
deriving DecidableEq, Inhabited

/-- The nodes of a disk by their places.  A place lists the names from the root. -/
structure Disk where
  nodes : List (List String × DiskNode) := []
deriving DecidableEq, Inhabited

namespace Disk

/-- What stands at a place.  The root is a directory. -/
def node? (disk : Disk) : List String → Option DiskNode
  | [] => some .directory
  | place => List.lookup place disk.nodes

/-- Put something at a place. -/
def put (disk : Disk) (place : List String) (node : DiskNode) : Disk :=
  ⟨(place, node) :: disk.nodes.filter fun entry => entry.1 != place⟩

/-- Leave nothing at a place. -/
def remove (disk : Disk) (place : List String) : Disk :=
  ⟨disk.nodes.filter fun entry => entry.1 != place⟩

/-- The names of a path.  An empty name stands where a slash has nothing on one of its sides. -/
def names (path : String) : List String := (path.toList.splitOn '/').map String.ofList

/-- The place that a name leads to from a directory. -/
def enter (place : List String) (name : String) : List String :=
  if name = "" ∨ name = "." then place
  else if name = ".." then place.dropLast
  else place ++ [name]

/-- The place that names lead to from a place.  What they lead through has to be directories. -/
def follow (disk : Disk) (place : List String) : List String → Except DiskError (List String)
  | [] => .ok place
  | name :: rest =>
    match disk.node? place with
    | none => .error .notFound
    | some (.file _) => .error .refused
    | some .directory =>
      follow disk (enter place name) rest

/-- The place of a path. -/
def place (disk : Disk) (path : String) : Except DiskError (List String) :=
  if path.isEmpty then .error .notFound else disk.follow [] (names path)

/-- The content of a file. -/
def read (disk : Disk) (path : String) : Except DiskError String :=
  match disk.place path with
  | .error error => .error error
  | .ok place =>
    match disk.node? place with
    | none => .error .notFound
    | some .directory => .error .refused
    | some (.file content) => .ok content

/-- Whether there is something under a path. -/
def contains (disk : Disk) (path : String) : Bool :=
  match disk.place path with
  | .error _ => false
  | .ok place => (disk.node? place).isSome

/-- Open a file to write it: an empty file in place of the one that may be there, and its place. -/
def truncate (disk : Disk) (path : String) : Except DiskError (Disk × List String) :=
  match disk.place path with
  | .error error => .error error
  | .ok place =>
    match disk.node? place with
    | some .directory => .error .refused
    | _ => .ok (disk.put place (.file ""), place)

/-- A text with characters written over it from a position on.  A gap before them is filled with
zeros. -/
def splice (text : List Char) (position : Nat) (added : List Char) : List Char :=
  (text ++ List.replicate (position - text.length) '\x00').take position ++ added
    ++ text.drop (position + added.length)

/-- Write characters into the file that stands at a place. -/
def writeAt (disk : Disk) (place : List String) (position : Nat) (added : List Char) : Disk :=
  match disk.node? place with
  | some (.file content) =>
    disk.put place (.file (String.ofList (splice content.toList position added)))
  | _ => disk

/-- Write a file, in place of the one that may be there. -/
def write (disk : Disk) (path content : String) : Except DiskError Disk :=
  (disk.truncate path).map fun (later, place) => later.writeAt place 0 content.toList

/-- Create the directories that names lead through from a place: the disk, and whether all of them
are there now.  What has been created before something stands in the way stays. -/
def createFrom (disk : Disk) (place : List String) : List String → Disk × Bool
  | [] => (disk, true)
  | name :: rest =>
    let next := enter place name
    match disk.node? next with
    | some .directory => createFrom disk next rest
    | some (.file _) => (disk, false)
    | none => createFrom (disk.put next .directory) next rest

/-- Create a directory and the ones on the way to it. -/
def createDirectories (disk : Disk) (path : String) : Except DiskError Disk :=
  match disk.createFrom [] (names path) with
  | (later, true) => .ok later
  | (_, false) => .error .refused

/-- Give a file another path, in place of the file that may be there. -/
def rename (disk : Disk) (source target : String) : Except DiskError Disk :=
  match disk.read source, disk.place source, disk.place target with
  | .ok content, .ok sourcePlace, .ok targetPlace =>
    match disk.node? targetPlace with
    | some .directory => .error .refused
    | _ => .ok ((disk.remove sourcePlace).put targetPlace (.file content))
  | .error error, _, _ => .error error
  | _, .error error, _ => .error error
  | _, _, .error error => .error error

end Disk

end WalletTopUp
