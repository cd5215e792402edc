import PcmLink.Proofs.Wave.Saving

/-!
# Stages of a recording

A recording gathers a stream, saves its samples, and then gives the trace its name. Each stage is
reached or not by what holds on the disk before the recording, and together they fix what the disk
is afterwards.
-/

namespace PcmLink

/-- Nothing hinders a draft from getting its name, and this is its place. -/
structure Disk.Commits (disk : Disk) (path : String) (mishaps : Mishaps) (place : Location) :
    Prop where
  /-- Nothing else goes wrong. -/
  unhindered : mishaps.onCommit = none
  /-- The path is the place of a file. -/
  named : disk.destination path = .ok place

namespace Recording

/-- The samples of the joined payloads. -/
def Collection.samples (collected : Collection) : List Int16 :=
  Samples.ofWire collected.joined.stream

/-- The draft of the trace of a recording. -/
def traceDraft (settings : CaptureSettings) (mishaps : Mishaps) : Draft :=
  { path := settings.tracePath, mishaps }

/-- What a recording collects once its trace is begun. -/
def collection (settings : CaptureSettings) (inbound : Inbound) (mishaps : Mishaps) : Collection :=
  collect { options := settings.options, interface := settings.interface }
    { trace := (traceDraft settings mishaps).sink } inbound

/-- The stream of a recording is gathered and traced, and is not refused. -/
structure Gathers (settings : CaptureSettings) (inbound : Inbound) (disk : Disk)
    (mishaps : Mishaps) : Prop where
  /-- The trace can be begun. -/
  begins : disk.Begins settings.tracePath mishaps
  /-- Neither the capture nor the trace fails. -/
  unfailed : (collection settings inbound mishaps).error = none
  /-- The trace can be handed over. -/
  flushed : mishaps.onFlush = none
  /-- There are samples, or none are needed. -/
  accepted : ¬ ((collection settings inbound mishaps).samples = [] ∧ settings.rejectEmpty)

section Run

variable {settings : CaptureSettings} {inbound : Inbound} {disk : Disk}
  {traceMishaps waveMishaps : Mishaps} {samples : List Int16} {place tracePlace : Location}
  {bytes : List UInt8}

/-- A recording that gathers nothing fails and leaves the disk alone. -/
theorem run_of_not_gathers (missing : ¬ Gathers settings inbound disk traceMishaps) :
    (∃ error, (run settings inbound disk traceMishaps waveMishaps).result = .error error) ∧
      (run settings inbound disk traceMishaps waveMishaps).disk = disk := by
  unfold run
  split
  · exact ⟨⟨_, rfl⟩, rfl⟩
  · rename_i trace begun draftEq
    obtain ⟨begins, rfl, rfl⟩ := Disk.draft_eq_ok_iff.mp draftEq
    dsimp only
    split
    · exact ⟨⟨_, rfl⟩, rfl⟩
    · exact ⟨⟨_, rfl⟩, rfl⟩
    · rename_i unfailed flushed
      split
      · exact ⟨⟨_, rfl⟩, rfl⟩
      · rename_i accepted
        have flushed := Draft.flush_eq_ok_iff.mp flushed
        exact absurd ⟨begins, unfailed, flushed, accepted⟩ missing

/-- A recording that gathers its stream comes to what publishing it comes to. -/
theorem run_of_gathers (gathers : Gathers settings inbound disk traceMishaps) :
    run settings inbound disk traceMishaps waveMishaps =
      let collected := collection settings inbound traceMishaps
      let warnings := collected.warnings
      match publish settings collected.samples (traceDraft settings traceMishaps)
        collected.joined.trace.written { disk with drafts := disk.drafts + 1 } waveMishaps with
      | (.error error, disk) => { result := .error error, disk, warnings }
      | (.ok (), disk) =>
        { result := .ok (collected.report settings collected.samples), disk, warnings } := by
  have begun : disk.draft settings.tracePath traceMishaps = .ok _ :=
    Disk.draft_eq_ok_iff.mpr ⟨gathers.begins, rfl, rfl⟩
  have flushed : (traceDraft settings traceMishaps).flush = .ok () :=
    Draft.flush_eq_ok_iff.mpr gathers.flushed
  have unfailed := gathers.unfailed
  have accepted := gathers.accepted
  simp only [collection, traceDraft, Collection.samples] at unfailed accepted flushed ⊢
  unfold run
  rw [begun]
  simp only [unfailed, flushed]
  exact if_neg accepted

/-- Without a WAVE file nothing is published. -/
theorem publish_of_not_saves
    (unsaved : ∀ place bytes,
      ¬ Wave.Saves disk settings.wavePath samples settings.sampleRate waveMishaps place bytes)
    (trace : Draft) (traced : List UInt8) :
    ∃ error, publish settings samples trace traced { disk with drafts := disk.drafts + 1 }
      waveMishaps = (.error error, disk) := by
  unfold publish
  split
  · rename_i error after failed
    rw [Wave.eq_of_save_error failed]
    exact ⟨error, rfl⟩
  · rename_i after saved
    obtain ⟨place, bytes, saves, _⟩ := Wave.save_eq_ok_iff.mp saved
    exact absurd (saves.of_same (disk.sameDirectories_drafts _)) (unsaved place bytes)

section Saved

variable (saves : Wave.Saves disk settings.wavePath samples settings.sampleRate waveMishaps place
  bytes)

include saves

/-- A WAVE file is saved beside the draft of the trace. -/
theorem save_beside_trace :
    Wave.save { disk with drafts := disk.drafts + 1 } settings.wavePath samples
        settings.sampleRate waveMishaps =
      (.ok (), { disk.put place (.file bytes) with drafts := disk.drafts + 1 }) :=
  Wave.save_eq_ok_iff.mpr
    ⟨place, bytes, saves.of_same (disk.sameDirectories_drafts (disk.drafts + 1)).symm, rfl⟩

/-- The WAVE file that is saved leaves the directories alone. -/
theorem sameDirectories_saved :
    { disk.put place (.file bytes) with drafts := disk.drafts + 1 }.SameDirectories disk :=
  ((disk.put place (.file bytes)).sameDirectories_drafts _).trans
    (Disk.sameDirectories_put (Disk.free_of_destination saves.named) bytes)

/-- With a WAVE file and a name for the trace both are published. -/
theorem publish_of_commits (commits : disk.Commits settings.tracePath traceMishaps tracePlace)
    (traced : List UInt8) :
    publish settings samples (traceDraft settings traceMishaps) traced
        { disk with drafts := disk.drafts + 1 } waveMishaps =
      (.ok (), (disk.put place (.file bytes)).put tracePlace (.file traced)) := by
  -- The trace gets its name on the disk that holds the WAVE file already.
  have named := Disk.destination_of_same commits.named (sameDirectories_saved saves).symm
  have committed : { disk.put place (.file bytes) with drafts := disk.drafts + 1 }.commit
      (traceDraft settings traceMishaps) traced = (.ok (), _) :=
    Disk.commit_eq_ok_iff.mpr ⟨commits.unhindered, tracePlace, named, rfl⟩
  unfold publish
  rw [save_beside_trace saves]
  dsimp only
  rw [committed]
  rfl

/-- With a WAVE file but no name for the trace only the WAVE file is published. -/
theorem publish_of_not_commits
    (unnamed : ∀ tracePlace, ¬ disk.Commits settings.tracePath traceMishaps tracePlace)
    (traced : List UInt8) :
    ∃ failure,
      publish settings samples (traceDraft settings traceMishaps) traced
          { disk with drafts := disk.drafts + 1 } waveMishaps =
        (.error (.io failure), disk.put place (.file bytes)) := by
  unfold publish
  rw [save_beside_trace saves]
  dsimp only
  split
  · rename_i failure after failed
    rw [Disk.eq_discard_of_commit failed]
    exact ⟨failure, rfl⟩
  · rename_i after committed
    obtain ⟨unhindered, tracePlace, named, _⟩ := Disk.commit_eq_ok_iff.mp committed
    have named := Disk.destination_of_same named (sameDirectories_saved saves)
    exact absurd ⟨unhindered, named⟩ (unnamed tracePlace)

end Saved

end Run

end Recording

end PcmLink
