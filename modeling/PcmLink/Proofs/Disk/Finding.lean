import PcmLink.Proofs.Disk.Naming

/-!
# Files that are found

Where a path leads depends on the directories on its way and on there being something at its end,
not on what that is. So a path that is found on one disk is found at the same place on any other
with the same directories where that place is not empty, and what is read there is what the place
holds.
-/

namespace PcmLink.Disk

section Finding

variable {disk left right : Disk} {path : String} {place : Location}

/-- A path is found where its parts lead, unless it demands a directory and there is none. -/
theorem find_eq_ok_iff :
    disk.find path = .ok place ↔
      Path.check path = .ok () ∧
        disk.walk (disk.origin (Path.isAbsolute path)) (Path.parts path) = .ok place ∧
        ¬ (Path.endsWithSlash path ∧ disk.node? place ≠ some .directory) := by
  unfold find
  cases Path.check path with
  | error failure => simp [bind, Except.bind]
  | ok =>
    cases disk.walk (disk.origin (Path.isAbsolute path)) (Path.parts path) with
    | error failure => simp [bind, Except.bind]
    | ok reached =>
      simp only [bind, Except.bind, refusing_eq_ok_iff, Except.ok.injEq, true_and]
      constructor
      · rintro ⟨allowed, rfl⟩
        exact ⟨rfl, allowed⟩
      · rintro ⟨rfl, allowed⟩
        exact ⟨allowed, rfl⟩

/-- A path that is found on one disk is found on another that holds something there. -/
theorem SameDirectories.find_eq_of_held (same : left.SameDirectories right)
    (found : left.find path = .ok place)
    (held : left.node? place ≠ none → right.node? place ≠ none) :
    right.find path = .ok place := by
  obtain ⟨check, walked, allowed⟩ := find_eq_ok_iff.mp found
  have start : right.origin (Path.isAbsolute path) = left.origin (Path.isAbsolute path) := by
    rw [origin, origin, same.working]
  refine find_eq_ok_iff.mpr ⟨check, ?_, ?_⟩
  · rw [start]
    exact same.walk_eq_of_held walked held
  · rintro ⟨slash, other⟩
    exact allowed ⟨slash, fun directory => other ((same.directory place).mp directory)⟩

/-- What is read at a path is the file that is where it is found. -/
theorem read_eq_ok_iff {bytes : List UInt8} :
    disk.read path = .ok bytes ↔
      ∃ place, disk.find path = .ok place ∧ disk.node? place = some (.file bytes) := by
  unfold read
  cases disk.find path with
  | error failure => simp [bind, Except.bind]
  | ok place =>
    simp only [bind, Except.bind, Except.ok.injEq, exists_eq_left']
    cases disk.node? place with
    | none => simp
    | some node => cases node <;> simp

/-- Both paths are found, and at one place. -/
def together (disk : Disk) (first second : String) : Bool :=
  match disk.find first, disk.find second with
  | .ok one, .ok other => one == other
  | _, _ => false

/-- Paths are together at the place that both are found at. -/
theorem together_iff {first second : String} :
    disk.together first second ↔
      ∃ place, disk.find first = .ok place ∧ disk.find second = .ok place := by
  unfold together
  cases disk.find first with
  | error failure => simp
  | ok one =>
    cases disk.find second with
    | error failure => simp
    | ok other =>
      rw [beq_iff_eq]
      constructor
      · rintro rfl
        exact ⟨one, rfl, rfl⟩
      · rintro ⟨place, here, there⟩
        exact (Except.ok.inj here).trans (Except.ok.inj there).symm

end Finding

end PcmLink.Disk
