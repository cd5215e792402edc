import PcmLink.Proofs.Disk.Naming
import PcmLink.Proofs.Disk.Path

/-!
# Drafts on a disk

What lets a draft be begun, and what becomes of it: it is given its name, or it is thrown away and
the disk is what it was before. A path that can be the name of a file is one whose draft can be
begun, as far as the path of the draft is not too long.
-/

namespace PcmLink

/-- What was written to a draft is handed over unless that goes wrong. -/
theorem Draft.flush_eq_ok_iff {draft : Draft} :
    draft.flush = .ok () ↔ draft.mishaps.onFlush = none := by
  unfold flush
  cases draft.mishaps.onFlush <;> simp

namespace Disk

section Drafts

variable {disk other after : Disk} {path : String} {place : Location} {mishaps : Mishaps}

/-- What lets a draft be begun. -/
structure Begins (disk : Disk) (path : String) (mishaps : Mishaps) : Prop where
  /-- Nothing else hinders it. -/
  unhindered : mishaps.onBegin = none
  /-- The text of its directory does not hold the character that ends paths. -/
  noNul : ¬ Path.hasNul (Path.directoryText path)
  /-- The system takes its path. -/
  short : ¬ Path.longestPath ≤ disk.draftLength path
  /-- The parts of its directory lead to a directory. -/
  directory : ∃ place,
    disk.walk (disk.origin (Path.directory path).1) (Path.directory path).2 = .ok place ∧
      disk.node? place = some .directory

/-- A draft that is begun keeps its path and what goes wrong with it, and is counted. -/
theorem draft_eq_ok_iff {draft : Draft} :
    disk.draft path mishaps = .ok (draft, after) ↔
      disk.Begins path mishaps ∧ draft = { path, mishaps } ∧
        after = { disk with drafts := disk.drafts + 1 } := by
  constructor
  · intro begun
    cases unhindered : mishaps.onBegin with
    | some failure => simp [Disk.draft, unhindered, bind, Except.bind] at begun
    | none =>
      simp only [Disk.draft, unhindered, bind, Except.bind, refusing_eq_ok_iff] at begun
      obtain ⟨noNul, short, walked⟩ := begun
      split at walked
      · cases walked
      · rename_i place reached
        obtain ⟨directory, same⟩ := refusing_eq_ok_iff.mp walked
        obtain ⟨rfl, rfl⟩ := Prod.mk.inj (Except.ok.inj same)
        exact ⟨⟨unhindered, noNul, short, place, reached, Decidable.not_not.mp directory⟩,
          rfl, rfl⟩
  · rintro ⟨begins, rfl, rfl⟩
    obtain ⟨place, reached, directory⟩ := begins.directory
    simp only [Disk.draft, begins.unhindered, bind, Except.bind, if_neg begins.noNul,
      if_neg begins.short, reached, if_neg (not_not_intro directory)]

/-- Whether a draft can be begun depends on the directories alone. -/
theorem Begins.of_same (begins : disk.Begins path mishaps)
    (same : disk.SameDirectories other) : other.Begins path mishaps where
  unhindered := begins.unhindered
  noNul := begins.noNul
  short := by
    have length : other.draftLength path = disk.draftLength path := by
      simp only [draftLength, workingLength, same.working]
    rw [length]
    exact begins.short
  directory := by
    obtain ⟨place, reached, directory⟩ := begins.directory
    have start : other.origin (Path.directory path).1 = disk.origin (Path.directory path).1 := by
      rw [origin, origin, same.working]
    rw [start]
    exact ⟨place, same.walk_eq reached directory, (same.directory place).mp directory⟩

/-- A file can be written at a path: it can have the name, and the path of its draft is not too
long. -/
structure Writable (disk : Disk) (path : String) (place : Location) : Prop where
  /-- The path is the place of a file. -/
  named : disk.destination path = .ok place
  /-- The system takes the path of the draft. -/
  short : disk.draftLength path < Path.longestPath

/-- The directory that the draft of a file begins in is the one that has its name. -/
theorem Names.walk_directory {parent : Location} {name : String}
    (names : disk.Names path parent name) :
    disk.walk (disk.origin (Path.directory path).1) (Path.directory path).2 = .ok parent := by
  have ordinary := not_or.mp names.ordinary
  -- The name is no dot, so it stays the last part when dots are left out.
  have moving : (Path.parts path).filter (· ≠ ".") =
      (Path.parts path).dropLast.filter (· ≠ ".") ++ [name] := by
    conv => lhs; rw [names.parts_eq]
    rw [List.filter_append, List.filter_cons_of_pos (by simp [ordinary.1]), List.filter_nil]
  have directory : Path.directory path =
      (Path.isAbsolute path, (Path.parts path).dropLast.filter (· ≠ ".")) := by
    unfold Path.directory
    rw [moving]
    split
    · simp_all
    · rw [List.dropLast_concat]
  rw [directory]
  exact walk_filter names.walked

/-- The draft of a file that can be written can be begun. -/
theorem Writable.begins (writable : disk.Writable path place) : disk.Begins path {} := by
  obtain ⟨parent, name, names, _⟩ := destination_eq_ok_iff.mp writable.named
  exact {
    unhindered := rfl
    noNul := fun found => hasNul_of_check names.check (Path.hasNul_of_directoryText found)
    short := Nat.not_le.mpr writable.short
    directory := ⟨parent, names.walk_directory, names.directory⟩ }

/-- A file can be written under a single name unless a directory has it. -/
theorem writable_of_isName (isName : Path.IsName path)
    (inside : disk.node? disk.working = some .directory)
    (free : disk.node? (disk.working ++ [path]) ≠ some .directory)
    (short : disk.draftLength path < Path.longestPath) :
    disk.Writable path (disk.working ++ [path]) :=
  { named := (destination_eq_ok_iff_of_isName isName inside).mpr ⟨rfl, free⟩, short }

/-- A draft gets its name exactly if nothing hinders it and its path is the place of a file. -/
theorem commit_eq_ok_iff {draft : Draft} {bytes : List UInt8} :
    disk.commit draft bytes = (.ok (), after) ↔
      draft.mishaps.onCommit = none ∧ ∃ place, disk.destination draft.path = .ok place ∧
        after = disk.discard.put place (.file bytes) := by
  unfold commit
  cases draft.mishaps.onCommit with
  | some failure => simp
  | none => cases disk.destination draft.path <;> simp [eq_comm]

/-- A draft that cannot have its name is thrown away. -/
theorem eq_discard_of_commit {draft : Draft} {bytes : List UInt8} {failure : IoError}
    (failed : disk.commit draft bytes = (.error failure, after)) : after = disk.discard := by
  unfold commit at failed
  split at failed
  · exact (Prod.mk.inj failed).2.symm
  · split at failed
    · exact (Prod.mk.inj failed).2.symm
    · cases (Prod.mk.inj failed).1

end Drafts

end Disk

end PcmLink
