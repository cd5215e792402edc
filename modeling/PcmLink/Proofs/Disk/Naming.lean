import PcmLink.Disk

/-!
# Names on a disk

Whether a path can be the name of a file depends on nothing but the directories of a disk, so a
file that is written does not change where another can be named. A file that has got its name is
found under it.
-/

namespace PcmLink

/-- What is refused on a condition succeeds without it. -/
theorem refusing_eq_ok_iff {α ε : Type} {condition : Prop} [Decidable condition] {refusal : ε}
    {otherwise : Except ε α} {value : α} :
    (if condition then .error refusal else otherwise) = .ok value ↔
      ¬ condition ∧ otherwise = .ok value := by
  split <;> simp_all

/-- A path that is a single name and does not stand for a directory. -/
structure Path.IsName (path : String) : Prop where
  /-- The system takes the path. -/
  check : Path.check path = .ok ()
  /-- The path has one part. -/
  parts : Path.parts path = [path]
  /-- It starts at the working directory. -/
  relative : Path.isAbsolute path = false
  /-- The name does not stand for a directory. -/
  ordinary : ¬ (path = "." ∨ path = "..")
  /-- The name is no longer than a part can be. -/
  short : ¬ Path.longestPart < path.utf8ByteSize
  /-- The path does not demand a directory. -/
  openEnded : ¬ Path.endsWithSlash path

namespace Disk

/-- Paths start at one place and lead through the same directories. -/
structure SameDirectories (left right : Disk) : Prop where
  /-- Both have one working directory. -/
  working : left.working = right.working
  /-- A place is a directory of both or of none. -/
  directory (place : Location) :
    left.node? place = some .directory ↔ right.node? place = some .directory

namespace SameDirectories

/-- The relation can be read from right to left. -/
theorem symm {left right : Disk} (same : left.SameDirectories right) :
    right.SameDirectories left :=
  { working := same.working.symm, directory := fun place => (same.directory place).symm }

/-- The relation can be chained. -/
theorem trans {left middle right : Disk} (same : left.SameDirectories middle)
    (next : middle.SameDirectories right) : left.SameDirectories right :=
  { working := same.working.trans next.working
    directory := fun place => (same.directory place).trans (next.directory place) }

end SameDirectories

/-- Drafts are no directories. -/
theorem sameDirectories_drafts (disk : Disk) (drafts : Nat) :
    { disk with drafts }.SameDirectories disk :=
  { working := rfl, directory := fun _ => Iff.rfl }

/-- A file put where no directory is leaves the directories alone. -/
theorem sameDirectories_put {disk : Disk} {place : Location}
    (free : disk.node? place ≠ some .directory) (bytes : List UInt8) :
    (disk.put place (.file bytes)).SameDirectories disk where
  working := rfl
  directory other := by
    have inside : place ≠ [] := by
      rintro rfl
      exact free rfl
    by_cases same : other = place
    · rw [same, node?_put_self inside]
      simp [free]
    · rw [node?_put_of_ne same]

/-- Follow one part from a location. -/
def follow (disk : Disk) (place : Location) (part : String) : Except IoError Location :=
  if disk.node? place ≠ some .directory then .error (.os Errno.notDirectory)
  else if part = "." then .ok place
  else if part = ".." then .ok place.dropLast
  else if Path.longestPart < part.utf8ByteSize then .error (.os Errno.nameTooLong)
  else if disk.node? (place ++ [part]) = none then .error (.os Errno.noEntry)
  else .ok (place ++ [part])

/-- A walk follows its parts one after the other. -/
theorem walk_cons (disk : Disk) (place : Location) (part : String) (rest : List String) :
    disk.walk place (part :: rest) = (disk.follow place part).bind (disk.walk · rest) := by
  simp only [walk, follow]
  cases disk.node? (place ++ [part]) <;> repeat' split
  all_goals first | rfl | contradiction

/-- A walk of two lists of parts is one after the other. -/
theorem walk_append (disk : Disk) (place : Location) (front back : List String) :
    disk.walk place (front ++ back) = (disk.walk place front).bind (disk.walk · back) := by
  induction front generalizing place with
  | nil => rfl
  | cons part front ih =>
    rw [List.cons_append, walk_cons, walk_cons]
    cases disk.follow place part with
    | error failure => rfl
    | ok next => exact ih next

/-- A walk that arrives has followed its first part to where the rest of it starts. -/
theorem follow_of_walk_cons {disk : Disk} {place reached : Location} {part : String}
    {rest : List String} (walked : disk.walk place (part :: rest) = .ok reached) :
    ∃ next, disk.follow place part = .ok next ∧ disk.walk next rest = .ok reached := by
  rw [walk_cons] at walked
  cases followed : disk.follow place part with
  | error failure =>
    rw [followed] at walked
    contradiction
  | ok next =>
    rw [followed] at walked
    exact ⟨next, rfl, walked⟩

/-- Parts are only followed from a directory. -/
theorem directory_of_follow {disk : Disk} {place next : Location} {part : String}
    (followed : disk.follow place part = .ok next) : disk.node? place = some .directory := by
  rw [follow, refusing_eq_ok_iff] at followed
  exact Decidable.not_not.mp followed.1

/-- What one disk follows a part to is followed to on the other, if that holds something there. -/
theorem SameDirectories.follow_eq {left right : Disk} (same : left.SameDirectories right)
    {place next : Location} {part : String} (followed : left.follow place part = .ok next)
    (held : left.node? next ≠ none → right.node? next ≠ none) :
    right.follow place part = .ok next := by
  have start := (same.directory place).mp (directory_of_follow followed)
  rw [follow, if_neg (not_not_intro (directory_of_follow followed))] at followed
  rw [follow, if_neg (not_not_intro start)]
  by_cases stay : part = "."
  · rw [if_pos stay] at followed ⊢
    exact followed
  rw [if_neg stay] at followed ⊢
  by_cases up : part = ".."
  · rw [if_pos up] at followed ⊢
    exact followed
  rw [if_neg up] at followed ⊢
  -- Only here does the content of a disk decide, and both hold something.
  rw [refusing_eq_ok_iff, refusing_eq_ok_iff] at followed
  obtain ⟨short, there, arrived⟩ := followed
  obtain rfl := Except.ok.inj arrived
  rw [if_neg short, if_neg (held there)]

/-- Where one disk holds a directory, the other holds something. -/
theorem SameDirectories.held {left right : Disk} (same : left.SameDirectories right)
    {place : Location} (directory : left.node? place = some .directory) :
    right.node? place ≠ none := by
  simp [(same.directory place).mp directory]

/-- What one disk is walked to is reached on the other, if that holds something there. -/
theorem SameDirectories.walk_eq_of_held {left right : Disk} (same : left.SameDirectories right)
    {place reached : Location} {parts : List String}
    (walked : left.walk place parts = .ok reached)
    (held : left.node? reached ≠ none → right.node? reached ≠ none) :
    right.walk place parts = .ok reached := by
  induction parts generalizing place with
  | nil => exact walked
  | cons part rest ih =>
    obtain ⟨next, followed, later⟩ := follow_of_walk_cons walked
    have onward : right.follow place part = .ok next := by
      cases rest with
      | nil =>
        obtain rfl := Except.ok.inj later
        exact same.follow_eq followed held
      | cons further rest =>
        -- The walk goes on, so this part leads to a directory.
        obtain ⟨_, further_on, _⟩ := follow_of_walk_cons later
        exact same.follow_eq followed fun _ => same.held (directory_of_follow further_on)
    rw [walk_cons, onward]
    exact ih later

/-- A directory that one disk is walked to is reached on the other. -/
theorem SameDirectories.walk_eq {left right : Disk} (same : left.SameDirectories right)
    {place reached : Location} {parts : List String}
    (walked : left.walk place parts = .ok reached)
    (directory : left.node? reached = some .directory) :
    right.walk place parts = .ok reached :=
  same.walk_eq_of_held walked fun _ => same.held directory

/-- Parts that stay in place can be left out of a walk that arrives. -/
theorem walk_filter {disk : Disk} {place reached : Location} {parts : List String}
    (walked : disk.walk place parts = .ok reached) :
    disk.walk place (parts.filter (· ≠ ".")) = .ok reached := by
  induction parts generalizing place with
  | nil => exact walked
  | cons part rest ih =>
    obtain ⟨next, followed, later⟩ := follow_of_walk_cons walked
    by_cases stay : part = "."
    · rw [follow, if_neg (not_not_intro (directory_of_follow followed)), if_pos stay] at followed
      obtain rfl := Except.ok.inj followed
      rw [List.filter_cons_of_neg (by simp [stay])]
      exact ih later
    · rw [List.filter_cons_of_pos (by simp [stay]), walk_cons, followed]
      exact ih later

/-- What makes a path the place of a file: the directory that its other parts lead to and its last
part, which is a name that no directory has. -/
structure Names (disk : Disk) (path : String) (parent : Location) (name : String) : Prop where
  /-- The system takes the path. -/
  check : Path.check path = .ok ()
  /-- The name is the last part. -/
  last : (Path.parts path).getLast? = some name
  /-- The other parts lead to the parent. -/
  walked : disk.walk (disk.origin (Path.isAbsolute path)) (Path.parts path).dropLast = .ok parent
  /-- The parent is a directory. -/
  directory : disk.node? parent = some .directory
  /-- The name does not stand for a directory. -/
  ordinary : ¬ (name = "." ∨ name = "..")
  /-- The name is no longer than a part can be. -/
  short : ¬ Path.longestPart < name.utf8ByteSize
  /-- The path does not demand a directory. -/
  openEnded : ¬ Path.endsWithSlash path
  /-- No directory has the name. -/
  free : disk.node? (parent ++ [name]) ≠ some .directory

/-- A path that the system takes does not hold the character that ends it. -/
theorem hasNul_of_check {path : String} (check : Path.check path = .ok ()) :
    ¬ Path.hasNul path := by
  intro hasNul
  rw [Path.check, if_pos hasNul] at check
  contradiction

/-- A file can be given the name of a path exactly if the path is the place of a file. -/
theorem destination_eq_ok_iff {disk : Disk} {path : String} {place : Location} :
    disk.destination path = .ok place ↔
      ∃ parent name, disk.Names path parent name ∧ place = parent ++ [name] := by
  constructor
  · intro found
    simp only [destination, bind, Except.bind] at found
    split at found
    · contradiction
    · cases check : Path.check path with
      | error failure => simp [check] at found
      | ok =>
        cases last : (Path.parts path).getLast? with
        | none => simp [check, last] at found
        | some name =>
          simp only [check, last] at found
          split at found
          · contradiction
          · rename_i parent walked
            simp only [refusing_eq_ok_iff] at found
            obtain ⟨directory, ordinary, short, openEnded, free, same⟩ := found
            exact ⟨parent, name,
              { check, last, walked, directory := Decidable.not_not.mp directory, ordinary, short
                openEnded, free },
              (Except.ok.inj same).symm⟩
  · rintro ⟨parent, name, names, rfl⟩
    simp only [destination, bind, Except.bind, if_neg (hasNul_of_check names.check), names.check,
      names.last, names.walked, refusing_eq_ok_iff]
    exact ⟨not_not_intro names.directory, names.ordinary, names.short, names.openEnded,
      names.free, trivial⟩

section Names

variable {disk other : Disk} {path : String} {parent place : Location} {name : String}

/-- The place of a file is the same on disks with the same directories. -/
theorem Names.of_same (names : disk.Names path parent name) (same : disk.SameDirectories other) :
    other.Names path parent name :=
  { names with
    walked := by
      have start : other.origin (Path.isAbsolute path) = disk.origin (Path.isAbsolute path) := by
        rw [origin, origin, same.working]
      rw [start]
      exact same.walk_eq names.walked names.directory
    directory := (same.directory _).mp names.directory
    free := fun taken => names.free ((same.directory _).mpr taken) }

/-- Where a file can be named depends on the directories alone. -/
theorem destination_of_same (named : disk.destination path = .ok place)
    (same : disk.SameDirectories other) : other.destination path = .ok place := by
  obtain ⟨parent, name, names, rfl⟩ := destination_eq_ok_iff.mp named
  exact destination_eq_ok_iff.mpr ⟨parent, name, names.of_same same, rfl⟩

/-- A file can be named at one place on disks with the same directories. -/
theorem destination_eq_ok_iff_of_same (same : other.SameDirectories disk) :
    other.destination path = .ok place ↔ disk.destination path = .ok place :=
  ⟨fun named => destination_of_same named same, fun named => destination_of_same named same.symm⟩

/-- A single name is that of a file in the working directory, unless a directory has it. -/
theorem destination_eq_ok_iff_of_isName (isName : Path.IsName path)
    (inside : disk.node? disk.working = some .directory) :
    disk.destination path = .ok place ↔
      place = disk.working ++ [path] ∧ disk.node? (disk.working ++ [path]) ≠ some .directory := by
  have start : disk.origin (Path.isAbsolute path) = disk.working := by
    rw [origin, isName.relative]
    rfl
  rw [destination_eq_ok_iff]
  constructor
  · rintro ⟨parent, name, names, rfl⟩
    have last := names.last
    have walked := names.walked
    rw [isName.parts] at last walked
    obtain rfl := Option.some.inj last
    obtain rfl := Except.ok.inj walked
    rw [start]
    exact ⟨rfl, start ▸ names.free⟩
  · rintro ⟨rfl, free⟩
    refine ⟨disk.working, path, ?_, rfl⟩
    exact {
      check := isName.check
      last := by rw [isName.parts]; rfl
      walked := by rw [isName.parts, start]; rfl
      directory := inside
      ordinary := isName.ordinary
      short := isName.short
      openEnded := isName.openEnded
      free }

/-- No directory is where a file can be named. -/
theorem free_of_destination (named : disk.destination path = .ok place) :
    disk.node? place ≠ some .directory := by
  obtain ⟨parent, name, names, rfl⟩ := destination_eq_ok_iff.mp named
  exact names.free

/-- A named file is not the root. -/
theorem ne_nil_of_destination (named : disk.destination path = .ok place) : place ≠ [] := by
  rintro rfl
  exact free_of_destination named rfl

/-- The parts of the place of a file are its other parts and its name. -/
theorem Names.parts_eq (names : disk.Names path parent name) :
    Path.parts path = (Path.parts path).dropLast ++ [name] := by
  obtain ⟨front, parts⟩ := List.getLast?_eq_some_iff.mp names.last
  rw [parts, List.dropLast_concat]

/-- A file is found under its name. -/
theorem find_of_destination {bytes : List UInt8} (named : disk.destination path = .ok place)
    (held : disk.node? place = some (.file bytes)) : disk.find path = .ok place := by
  obtain ⟨parent, name, names, rfl⟩ := destination_eq_ok_iff.mp named
  have followed : disk.follow parent name = .ok (parent ++ [name]) := by
    have ordinary := not_or.mp names.ordinary
    rw [follow, if_neg (not_not_intro names.directory), if_neg ordinary.1, if_neg ordinary.2,
      if_neg names.short, held, if_neg (by simp)]
  have walked : disk.walk (disk.origin (Path.isAbsolute path)) (Path.parts path) =
      .ok (parent ++ [name]) := by
    rw [names.parts_eq, walk_append, names.walked]
    simp only [Except.bind, walk_cons, followed]
    rfl
  simp only [find, names.check, walked, bind, Except.bind, names.openEnded, false_and, ↓reduceIte,
    Bool.false_eq_true]

/-- A file is read under its name. -/
theorem read_of_destination {bytes : List UInt8} (named : disk.destination path = .ok place)
    (held : disk.node? place = some (.file bytes)) : disk.read path = .ok bytes := by
  have found := find_of_destination named held
  simp only [read, found, held, bind, Except.bind]

/-- A file is read under its name when another has been put elsewhere. -/
theorem read_put_put (named : disk.destination path = .ok place) {elsewhere : Location}
    (free : disk.node? elsewhere ≠ some .directory) (apart : elsewhere ≠ place)
    (bytes others : List UInt8) :
    ((disk.put place (.file bytes)).put elsewhere (.file others)).read path = .ok bytes := by
  have stillFree : (disk.put place (.file bytes)).node? elsewhere ≠ some .directory := by
    rw [node?_put_of_ne apart]
    exact free
  have same : ((disk.put place (.file bytes)).put elsewhere (.file others)).SameDirectories disk :=
    (sameDirectories_put stillFree others).trans
      (sameDirectories_put (free_of_destination named) bytes)
  apply read_of_destination (destination_of_same named same.symm)
  rw [node?_put_of_ne apart.symm]
  exact node?_put_self (ne_nil_of_destination named)

end Names

end Disk

end PcmLink
