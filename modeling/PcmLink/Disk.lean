import PcmLink.Disk.Path
import PcmLink.Octets.Sink

/-!
# Disks

Files and directories with their places, and a working directory. A file is written as a draft: an
unnamed file in the directory of its path, which is either given its name in one step, replacing
what had it, or thrown away. Until then nothing else on the disk changes, and a step that fails
throws its draft away. Paths decide most of what can fail; what else the system does to a draft is
told in advance.
-/

namespace PcmLink

/-- What has a place on a disk. -/
inductive Node where
  /-- A directory. -/
  | directory
  /-- A file with its bytes. -/
  | file (bytes : List UInt8)
  deriving DecidableEq, Repr

/-- The names from the root down to a node. -/
abbrev Location := List String

/-- A disk. The root has no entry and is a directory. -/
structure Disk where
  /-- Nodes by location; of two with one location the first counts. -/
  nodes : List (Location × Node) := []
  /-- Where paths start that do not start at the root. -/
  working : Location := []
  /-- How many drafts lie on the disk. -/
  drafts : Nat := 0
  deriving DecidableEq, Repr

/-- What goes wrong with a draft beyond what its path decides. -/
structure Mishaps where
  /-- Why it cannot be begun. -/
  onBegin : Option IoError := none
  /-- How many bytes it takes in all, if not every byte. -/
  room : Option Nat := none
  /-- What a write is told whose bytes it does not take. -/
  onFull : IoError := .os Errno.noSpace
  /-- Why what was written cannot be handed over. -/
  onFlush : Option IoError := none
  /-- Why it cannot be given its name. -/
  onCommit : Option IoError := none
  deriving DecidableEq, Repr

/-- A file that has no name yet. -/
structure Draft where
  /-- The path it is to have. -/
  path : String
  /-- What goes wrong with it. -/
  mishaps : Mishaps := {}
  deriving DecidableEq, Repr

/-- Where the bytes of a new draft go. -/
def Draft.sink (draft : Draft) : Sink :=
  { limit := draft.mishaps.room, refusal := draft.mishaps.onFull }

/-- Hand over what was written to a draft. -/
def Draft.flush (draft : Draft) : Except IoError Unit :=
  match draft.mishaps.onFlush with
  | none => .ok ()
  | some failure => .error failure

/-- The length in bytes of the name that a draft has until it is given its own: letters drawn at
random between a start and an end that mark it as a draft. -/
def Draft.nameLength : Nat := 19

namespace Disk

/-- The node at a location. -/
def node? (disk : Disk) (location : Location) : Option Node :=
  if location = [] then some .directory else disk.nodes.lookup location

/-- The disk with a node at a location. -/
def put (disk : Disk) (location : Location) (node : Node) : Disk :=
  { disk with nodes := (location, node) :: disk.nodes.filter (·.1 != location) }

/-- Where a path starts. -/
def origin (disk : Disk) (absolute : Bool) : Location := if absolute then [] else disk.working

/-- Follow parts from a location. Each part needs a directory to be looked up in. -/
def walk (disk : Disk) : Location → List String → Except IoError Location
  | place, [] => .ok place
  | place, part :: rest =>
    if disk.node? place ≠ some .directory then .error (.os Errno.notDirectory)
    else if part = "." then walk disk place rest
    else if part = ".." then walk disk place.dropLast rest
    else if Path.longestPart < part.utf8ByteSize then .error (.os Errno.nameTooLong)
    else
      match disk.node? (place ++ [part]) with
      | none => .error (.os Errno.noEntry)
      | some _ => walk disk (place ++ [part]) rest

/-- Where the existing node of a path is. -/
def find (disk : Disk) (path : String) : Except IoError Location := do
  Path.check path
  let place ← disk.walk (disk.origin (Path.isAbsolute path)) (Path.parts path)
  if Path.endsWithSlash path ∧ disk.node? place ≠ some .directory then
    .error (.os Errno.notDirectory)
  else .ok place

/-- The bytes of a file. -/
def read (disk : Disk) (path : String) : Except IoError (List UInt8) := do
  let place ← disk.find path
  match disk.node? place with
  | some (.file bytes) => .ok bytes
  | some .directory => .error (.os Errno.isDirectory)
  | none => .error (.os Errno.noEntry)

/-- The length in bytes of the path of the working directory, none for the root. -/
def workingLength (disk : Disk) : Nat :=
  disk.working.foldr (fun name below => 1 + name.utf8ByteSize + below) 0

/-- The length in bytes of the path from the root that a draft has while it is written. -/
def draftLength (disk : Disk) (path : String) : Nat :=
  let directory := Path.directoryText path
  let start := if Path.isAbsolute directory then 0 else disk.workingLength + 1
  let slash := if directory = "/" then 0 else 1
  start + directory.utf8ByteSize + slash + Draft.nameLength

/-- Begin a file in the directory of its path. -/
def draft (disk : Disk) (path : String) (mishaps : Mishaps := {}) :
    Except IoError (Draft × Disk) := do
  if let some failure := mishaps.onBegin then .error failure
  if Path.hasNul (Path.directoryText path) then .error Path.nulFailure
  if Path.longestPath ≤ disk.draftLength path then .error (.os Errno.nameTooLong)
  let (absolute, parts) := Path.directory path
  let place ← disk.walk (disk.origin absolute) parts
  if disk.node? place ≠ some .directory then .error (.os Errno.notDirectory)
  else .ok ({ path, mishaps }, { disk with drafts := disk.drafts + 1 })

/-- Throw a draft away. -/
def discard (disk : Disk) : Disk := { disk with drafts := disk.drafts - 1 }

/-- Where a file can be given the name of a path. It cannot take the place of a directory. -/
def destination (disk : Disk) (path : String) : Except IoError Location := do
  if Path.hasNul path then .error (.os Errno.invalidArgument)
  Path.check path
  match (Path.parts path).getLast? with
  | none => .error (.os Errno.busy)
  | some name =>
    let place ← disk.walk (disk.origin (Path.isAbsolute path)) (Path.parts path).dropLast
    if disk.node? place ≠ some .directory then .error (.os Errno.notDirectory)
    else if name = "." ∨ name = ".." then .error (.os Errno.busy)
    else if Path.longestPart < name.utf8ByteSize then .error (.os Errno.nameTooLong)
    else if Path.endsWithSlash path then .error (.os Errno.notDirectory)
    else if disk.node? (place ++ [name]) = some .directory then .error (.os Errno.isDirectory)
    else .ok (place ++ [name])

/-- Give a draft its bytes and its name, or throw it away if it cannot have the name. -/
def commit (disk : Disk) (draft : Draft) (bytes : List UInt8) : Except IoError Unit × Disk :=
  match draft.mishaps.onCommit with
  | some failure => (.error failure, disk.discard)
  | none =>
    match disk.destination draft.path with
    | .error failure => (.error failure, disk.discard)
    | .ok place => (.ok (), disk.discard.put place (.file bytes))

/-- The disk with a directory at a path from the working directory, and all directories on the
way to it. -/
def withDirectory (disk : Disk) (path : String) : Disk :=
  let step (reached : Disk × Location) (part : String) : Disk × Location :=
    let place := reached.2 ++ [part]
    if (reached.1.node? place).isSome then (reached.1, place)
    else (reached.1.put place .directory, place)
  ((Path.parts path).foldl step (disk, disk.origin (Path.isAbsolute path))).1

/-- The disk with a file at a path from the working directory. -/
def withFile (disk : Disk) (path : String) (bytes : List UInt8) : Disk :=
  disk.put (disk.origin (Path.isAbsolute path) ++ Path.parts path) (.file bytes)

/-- The nodes below the working directory by their path from it, each directory before what it
holds and names in order. -/
def listing (disk : Disk) : List (Location × Node) :=
  let below := disk.nodes.filterMap fun (location, node) =>
    match location.drop disk.working.length with
    | [] => none
    | inner => if disk.working.isPrefixOf location then some (inner, node) else none
  below.mergeSort fun left right => !decide (right.1 < left.1)

/-- A node just put is found. -/
theorem node?_put_self {disk : Disk} {location : Location} {node : Node}
    (inside : location ≠ []) : (disk.put location node).node? location = some node := by
  simp [put, node?, inside]

/-- Other nodes stay when one is put. -/
theorem node?_put_of_ne {disk : Disk} {location other : Location} {node : Node}
    (apart : other ≠ location) : (disk.put location node).node? other = disk.node? other := by
  by_cases root : other = []
  · simp [node?, root]
  · have missed : (other == location) = false := by simp [apart]
    simp only [put, node?, root, ↓reduceIte, List.lookup_cons, missed]
    induction disk.nodes with
    | nil => rfl
    | cons entry rest ih =>
      obtain ⟨place, held⟩ := entry
      by_cases same : place = location
      · have skipped : (other == place) = false := by simp [same, apart]
        simp [same, List.lookup_cons, missed, ih]
      · simp [same, List.lookup_cons, ih]

end Disk

end PcmLink
