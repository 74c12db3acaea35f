import SpinnerRemote.Text.Utf8

/-!
A disk as a run of the program finds and leaves it: directories and files by the names that lead to them.

A path is followed name by name, and each name but the last has to lead to a directory, also where the
next one leads back. `Disk.ensure` makes one directory and `Disk.ensureAll` those above it as well; what
was made stays when a later one cannot be.
-/
namespace SpinnerRemote

inductive Disk.Node where
  | directory
  /-- A directory in which nothing can be made. -/
  | closed
  | file (bytes : List UInt8)
  deriving DecidableEq, Repr

/-- Where something stands: its name, and then those of the directories it is in, up to the root. -/
abbrev Disk.Location := List String

inductive Disk.Fault where
  | missing
  | notDirectory
  | occupied
  | refused
  | unusable
  deriving DecidableEq, Repr

structure Disk where
  nodes : List (Disk.Location × Disk.Node) := []
  deriving Repr

namespace Disk

def pathLimit : Nat := 4096

def nameLimit : Nat := 255

def join (directory path : String) : String :=
  if path.startsWith "/" then path
  else if directory.endsWith "/" then directory ++ path
  else directory ++ "/" ++ path

def names (path : String) : Except Fault (List String) :=
  if path.utf8ByteSize < pathLimit ∧ '\x00' ∉ path.toList then
    .ok ((path.splitOn "/").filter (· ≠ ""))
  else .error .unusable

def above (names : List String) : List String := (names.filter (· ≠ ".")).dropLast

def node? (disk : Disk) (location : Location) : Option Node :=
  if location.isEmpty then some .directory else disk.nodes.lookup location

def enter (disk : Disk) (location : Location) : Except Fault Location :=
  match disk.node? location with
  | some (.file _) => .error .notDirectory
  | some _ => .ok location
  | none => .error .missing

def step (disk : Disk) (location : Location) (name : String) : Except Fault Location := do
  let directory ← disk.enter location
  if name = "." then .ok directory
  else if name = ".." then .ok directory.tail
  else if nameLimit < name.utf8ByteSize then .error .unusable
  else .ok (name :: directory)

/-- Where names lead from the root. Nothing has to be there but the directories on the way. -/
def follow (disk : Disk) (names : List String) : Except Fault Location := names.foldlM disk.step []

def isDirectory (disk : Disk) (names : List String) : Bool :=
  match disk.follow names >>= disk.enter with
  | .ok _ => true
  | .error _ => false

def add (disk : Disk) (location : Location) (node : Node) : Except Fault Disk :=
  if (disk.node? location).isSome then .error .occupied
  else if disk.node? location.tail = some .closed then .error .refused
  else .ok { nodes := disk.nodes ++ [(location, node)] }

def ensure (disk : Disk) (names : List String) : Except Fault Disk :=
  match do disk.add (← disk.follow names) .directory with
  | .ok disk => .ok disk
  | .error fault => if disk.isDirectory names then .ok disk else .error fault

def ensureAfter (names : List String) (parents : Disk → Disk × Option Fault) (disk : Disk) :
    Disk × Option Fault :=
  match disk.ensure names with
  | .ok disk => (disk, none)
  | .error .missing =>
    match parents disk with
    | (disk, some fault) => (disk, some fault)
    | (disk, none) =>
      match disk.ensure names with
      | .ok disk => (disk, none)
      | .error fault => (disk, some fault)
  | .error fault => (disk, some fault)

def ensureParents : List String → Disk → Disk × Option Fault
  | [] => fun disk => (disk, none)
  | last :: names => ensureAfter (last :: names).reverse (ensureParents names)

def ensureAll (disk : Disk) (path : String) : Disk × Option Fault :=
  match names path with
  | .ok names => ensureAfter names (ensureParents (above names).reverse) disk
  | .error fault => (disk, some fault)

def ensureAbove (disk : Disk) (path : String) : Disk × Option Fault :=
  match names path with
  | .ok names => ensureParents (above names).reverse disk
  | .error fault => (disk, some fault)

def touch (disk : Disk) (path : String) : Except Fault (Disk × Location) := do
  let location ← disk.follow (← names path)
  if path.endsWith "/" then .error .notDirectory
  else
    match disk.node? location with
    | some (.file _) => .ok (disk, location)
    | some _ => .error .occupied
    | none => .ok (← disk.add location (.file []), location)

def change (disk : Disk) (location : Location) (f : List UInt8 → List UInt8) : Disk where
  nodes := disk.nodes.map fun (place, node) =>
    match node with
    | .file bytes => if place = location then (place, .file (f bytes)) else (place, node)
    | _ => (place, node)

def write (disk : Disk) (path : String) (bytes : List UInt8) : Disk :=
  match disk.touch path with
  | .ok (disk, location) => disk.change location fun _ => bytes
  | .error _ => disk

def look (disk : Disk) (path : String) : Option Node :=
  match do disk.follow (← names path) with
  | .ok location => disk.node? location
  | .error _ => none

def entries (disk : Disk) (path : String) : List (String × Node) :=
  match do disk.follow (← names path) >>= disk.enter with
  | .error _ => []
  | .ok directory => disk.nodes.filterMap fun (location, node) =>
    match location with
    | name :: rest => if rest = directory then some (name, node) else none
    | [] => none

/-- A disk with the directories that every system has and that of a path. -/
def withDirectory (path : String) : Disk :=
  (ensureAll {
    nodes := [(["dev"], .directory), (["null", "dev"], .file []), (["proc"], .closed),
      (["sys"], .closed)] } path).1

def Node.lines : Node → List String
  | .file bytes =>
    match Utf8.decode bytes with
    | .ok text =>
      let lines := text.splitOn "\n"
      if lines.getLast? = some "" then lines.dropLast else lines
    | .error _ => []
  | _ => []

end Disk
end SpinnerRemote
