import PcmLink.Proofs.Disk.Drafts
import PcmLink.Proofs.Wave.Writing
import PcmLink.Recording

/-!
# Saved WAVE files

What has to hold for samples to become a file at a path, on the disk as it is before. Whatever
does not hold, the disk is left as it was.
-/

namespace PcmLink.Wave

/-- What lets samples become a file: its place and its data, and nothing that goes wrong on the
way. -/
structure Saves (disk : Disk) (path : String) (samples : List Int16) (sampleRate : UInt32)
    (mishaps : Mishaps) (place : Location) (bytes : List UInt8) : Prop where
  /-- The draft can be begun. -/
  begins : disk.Begins path mishaps
  /-- The samples have data. -/
  encoded : encode samples sampleRate = .ok bytes
  /-- The draft takes all of it. -/
  fits : ({ path, mishaps } : Draft).sink.Fits bytes.length
  /-- The data can be handed over. -/
  flushed : mishaps.onFlush = none
  /-- Nothing else hinders the naming. -/
  unhindered : mishaps.onCommit = none
  /-- The path is the place of a file. -/
  named : disk.destination path = .ok place

section Save

variable {disk other after : Disk} {path : String} {samples : List Int16} {sampleRate : UInt32}
  {mishaps : Mishaps} {place : Location} {bytes : List UInt8}

/-- Whether samples become a file depends on the directories alone. -/
theorem Saves.of_same (saves : Saves disk path samples sampleRate mishaps place bytes)
    (same : disk.SameDirectories other) :
    Saves other path samples sampleRate mishaps place bytes :=
  { saves with
    begins := saves.begins.of_same same
    named := Disk.destination_of_same saves.named same }

/-- A file that cannot be saved leaves the disk as it was. -/
theorem eq_of_save_error {error : Error}
    (failed : save disk path samples sampleRate mishaps = (.error error, after)) :
    after = disk := by
  unfold save at failed
  split at failed
  · exact (Prod.mk.inj failed).2.symm
  · rename_i draft begun draftEq
    obtain ⟨_, rfl, rfl⟩ := Disk.draft_eq_ok_iff.mp draftEq
    split at failed
    · exact (Prod.mk.inj failed).2.symm
    · split at failed
      · exact (Prod.mk.inj failed).2.symm
      · split at failed
        · rename_i refused
          obtain ⟨_, rfl⟩ := Prod.mk.inj failed
          exact Disk.eq_discard_of_commit refused
        · cases (Prod.mk.inj failed).1

/-- A file is saved exactly if nothing goes wrong, and is then at its place with its data. -/
theorem save_eq_ok_iff :
    save disk path samples sampleRate mishaps = (.ok (), after) ↔
      ∃ place bytes, Saves disk path samples sampleRate mishaps place bytes ∧
        after = disk.put place (.file bytes) := by
  constructor
  · intro saved
    unfold save at saved
    split at saved
    · cases (Prod.mk.inj saved).1
    · rename_i draft begun draftEq
      obtain ⟨begins, rfl, rfl⟩ := Disk.draft_eq_ok_iff.mp draftEq
      split at saved
      · cases (Prod.mk.inj saved).1
      · rename_i sink written
        obtain ⟨bytes, encoded, fits, rfl⟩ := write_eq_ok_iff.mp written
        split at saved
        · cases (Prod.mk.inj saved).1
        · rename_i flushed
          split at saved
          · cases (Prod.mk.inj saved).1
          · rename_i named
            obtain ⟨_, rfl⟩ := Prod.mk.inj saved
            obtain ⟨unhindered, place, destination, rfl⟩ := Disk.commit_eq_ok_iff.mp named
            refine ⟨place, bytes, ?_, rfl⟩
            exact {
              begins, encoded, fits, unhindered
              flushed := Draft.flush_eq_ok_iff.mp flushed
              named := Disk.destination_of_same destination (disk.sameDirectories_drafts _) }
  · rintro ⟨place, bytes, saves, rfl⟩
    have begun : disk.draft path mishaps = .ok _ :=
      Disk.draft_eq_ok_iff.mpr ⟨saves.begins, rfl, rfl⟩
    have written : write ({ path, mishaps } : Draft).sink samples sampleRate = (.ok (), _) :=
      write_eq_ok_iff.mpr ⟨bytes, saves.encoded, saves.fits, rfl⟩
    have flushed : ({ path, mishaps } : Draft).flush = .ok () :=
      Draft.flush_eq_ok_iff.mpr saves.flushed
    -- The file gets its name on the disk that its draft was begun on.
    have named := Disk.destination_of_same saves.named
      (disk.sameDirectories_drafts (disk.drafts + 1)).symm
    have committed : { disk with drafts := disk.drafts + 1 }.commit { path, mishaps } bytes =
        (.ok (), _) :=
      Disk.commit_eq_ok_iff.mpr ⟨saves.unhindered, place, named, rfl⟩
    unfold save
    rw [begun]
    dsimp only
    rw [written]
    dsimp only
    rw [flushed]
    dsimp only
    rw [Draft.sink, List.nil_append, committed]
    rfl

end Save

end PcmLink.Wave
