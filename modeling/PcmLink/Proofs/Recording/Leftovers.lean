import PcmLink.Proofs.Recording.Gathering

/-!
# What a failed recording leaves

A recording that fails leaves the disk as it was, with one exception: the WAVE file has its name
before the trace is given its own, so a trace that cannot have its name leaves the WAVE file
behind, in the place of what was there before. Whether that happens is told by the disk before the
recording and by what goes wrong with the drafts.
-/

namespace PcmLink

/-- The same files and directories, the same working directory and as many drafts. -/
structure Disk.Same (left right : Disk) : Prop where
  /-- Every place holds the same. -/
  nodes (place : Location) : left.node? place = right.node? place
  /-- The working directory is the same. -/
  working : left.working = right.working
  /-- As many drafts lie on both. -/
  drafts : left.drafts = right.drafts

/-- Putting a node changes nothing exactly if it is there. -/
theorem Disk.same_put_iff {disk : Disk} {place : Location} {node : Node} (inside : place ≠ []) :
    (disk.put place node).Same disk ↔ disk.node? place = some node := by
  constructor
  · intro same
    rw [← same.nodes place, node?_put_self inside]
  · intro held
    refine { nodes := fun other => ?_, working := rfl, drafts := rfl }
    by_cases own : other = place
    · rw [own, node?_put_self inside, held]
    · exact node?_put_of_ne own

namespace Recording

/-- A recording saves its WAVE file at a place and then cannot give the trace its name. -/
structure Strands (settings : CaptureSettings) (inbound : Inbound) (disk : Disk)
    (traceMishaps waveMishaps : Mishaps) (place : Location) (bytes : List UInt8) : Prop where
  /-- The stream is gathered. -/
  gathers : Gathers settings inbound disk traceMishaps
  /-- The WAVE file is saved. -/
  saves : Wave.Saves disk settings.wavePath (collection settings inbound traceMishaps).samples
    settings.sampleRate waveMishaps place bytes
  /-- The trace cannot have its name. -/
  unnamed (tracePlace : Location) : ¬ disk.Commits settings.tracePath traceMishaps tracePlace

section Failure

variable {settings : CaptureSettings} {inbound : Inbound} {disk : Disk}
  {traceMishaps waveMishaps : Mishaps} {place : Location} {bytes : List UInt8}

/-- A stranded WAVE file stays on the disk, and the recording fails. -/
theorem run_of_strands
    (strands : Strands settings inbound disk traceMishaps waveMishaps place bytes) :
    (∃ failure,
        (run settings inbound disk traceMishaps waveMishaps).result = .error (.io failure)) ∧
      (run settings inbound disk traceMishaps waveMishaps).disk =
        disk.put place (.file bytes) := by
  obtain ⟨failure, published⟩ := publish_of_not_commits strands.saves strands.unnamed
    (collection settings inbound traceMishaps).joined.trace.written
  rw [run_of_gathers strands.gathers]
  simp only [published]
  exact ⟨⟨failure, rfl⟩, trivial⟩

/-- A recording that fails without stranding a WAVE file leaves the disk as it was. -/
theorem disk_of_failed_run {error : Error}
    (failed : (run settings inbound disk traceMishaps waveMishaps).result = .error error)
    (tidy : ∀ place bytes, ¬ Strands settings inbound disk traceMishaps waveMishaps place bytes) :
    (run settings inbound disk traceMishaps waveMishaps).disk = disk := by
  by_cases gathers : Gathers settings inbound disk traceMishaps
  · rw [run_of_gathers gathers] at failed ⊢
    by_cases saved : ∃ place bytes, Wave.Saves disk settings.wavePath
        (collection settings inbound traceMishaps).samples settings.sampleRate waveMishaps place
        bytes
    · obtain ⟨place, bytes, saves⟩ := saved
      by_cases named : ∃ tracePlace, disk.Commits settings.tracePath traceMishaps tracePlace
      · obtain ⟨tracePlace, commits⟩ := named
        simp only [publish_of_commits saves commits] at failed
        contradiction
      · exact absurd ⟨gathers, saves, not_exists.mp named⟩ (tidy place bytes)
    · obtain ⟨_, published⟩ := publish_of_not_saves
        (fun place bytes saves => saved ⟨place, bytes, saves⟩)
        (traceDraft settings traceMishaps)
        (collection settings inbound traceMishaps).joined.trace.written
      simp only [published]
  · exact (run_of_not_gathers gathers).2

/-- A recording that fails leaves the disk as it was exactly if it strands no WAVE file, or one
whose place holds the same bytes already. A stranded file is all that is left behind, and any
other failure leaves the very disk. -/
theorem failed_run_restores_disk_iff {error : Error}
    (failed : (run settings inbound disk traceMishaps waveMishaps).result = .error error) :
    ((run settings inbound disk traceMishaps waveMishaps).disk.Same disk ↔
        ∀ place bytes, Strands settings inbound disk traceMishaps waveMishaps place bytes →
          disk.node? place = some (.file bytes)) ∧
      (∀ place bytes, Strands settings inbound disk traceMishaps waveMishaps place bytes →
        (run settings inbound disk traceMishaps waveMishaps).disk =
          disk.put place (.file bytes)) ∧
      ((∀ place bytes,
          ¬ Strands settings inbound disk traceMishaps waveMishaps place bytes) →
        (run settings inbound disk traceMishaps waveMishaps).disk = disk) := by
  refine ⟨?_, fun place bytes strands => (run_of_strands strands).2, disk_of_failed_run failed⟩
  constructor
  · intro same place bytes strands
    rw [(run_of_strands strands).2] at same
    exact (Disk.same_put_iff (Disk.ne_nil_of_destination strands.saves.named)).mp same
  · intro held
    by_cases stranded : ∃ place bytes,
        Strands settings inbound disk traceMishaps waveMishaps place bytes
    · obtain ⟨place, bytes, strands⟩ := stranded
      rw [(run_of_strands strands).2]
      have inside := Disk.ne_nil_of_destination strands.saves.named
      exact (Disk.same_put_iff inside).mpr (held place bytes strands)
    · rw [disk_of_failed_run failed fun place bytes strands => stranded ⟨place, bytes, strands⟩]
      exact ⟨fun _ => rfl, rfl, rfl⟩

/-- A trace whose path is a directory leaves a WAVE file where nothing was. -/
theorem failed_run_restores_disk_iff_directory :
    let header : List UInt8 :=
      [0xde, 0xad, 0xbe, 0xef, 0, 0, 0xd8, 0xbb, 0xc1, 0x57, 0xaa, 0x16, 0x00, 0x40]
    let script : List Reception := [.frame (header ++ [1, 2] ++ List.replicate 4 0xfc)]
    let settings : CaptureSettings := { count := 1, tracePath := "d", wavePath := "o.wav" }
    let before : Disk := { nodes := [(["d"], .directory)] }
    let outcome := run settings (.ofReceptions script) before
    (∃ error, outcome.result = .error error) ∧ ¬ outcome.disk.Same before ∧
      outcome.disk.node? ["o.wav"] = some (.file (Wave.data [258] 48000)) := by
  intro header script settings before outcome
  have inRange : 14 + settings.trailerLength.toNat < UInt64.size := by decide
  have delivers : settings.options.Delivers script := by decide
  have payloads : settings.options.payloads script = [[1, 2]] := by decide
  obtain ⟨_, _, samples, _⟩ := collection_of_delivers inRange delivers
  rw [payloads] at samples
  have traceName : Path.IsName "d" :=
    ⟨by rfl, by decide, by decide, by decide, by decide, by decide⟩
  have waveName : Path.IsName "o.wav" :=
    ⟨by rfl, by decide, by decide, by decide, by decide, by decide⟩
  have waveWritable : before.Writable settings.wavePath ["o.wav"] :=
    Disk.writable_of_isName waveName rfl (by decide) (by decide)
  have directory : Path.directory settings.tracePath = (false, []) := by decide
  have strands : Strands settings (.ofReceptions script) before {} {} ["o.wav"]
      (Wave.data [258] 48000) := {
    gathers := {
      begins := {
        unhindered := rfl
        noNul := by decide
        short := by decide
        directory := ⟨[], by rw [directory]; rfl, rfl⟩ }
      unfailed := (collection_unfailed_iff inRange).mpr delivers
      flushed := rfl
      accepted := fun refused => absurd refused.2 (by decide) }
    saves := {
      begins := waveWritable.begins
      encoded := by
        rw [samples]
        exact Wave.encode_eq_ok_iff.mpr ⟨⟨by decide, by decide⟩, rfl⟩
      fits := Sink.fits_of_unlimited rfl _
      flushed := rfl
      unhindered := rfl
      named := waveWritable.named }
    unnamed := fun tracePlace commits =>
      ((Disk.destination_eq_ok_iff_of_isName traceName rfl).mp commits.named).2 rfl }
  obtain ⟨⟨failure, failed⟩, _⟩ := run_of_strands strands
  obtain ⟨restored_iff, left, _⟩ := failed_run_restores_disk_iff failed
  have written : outcome.disk = before.put ["o.wav"] (.file (Wave.data [258] 48000)) :=
    left _ _ strands
  refine ⟨⟨_, failed⟩, fun same => ?_, ?_⟩
  · have held := restored_iff.mp same _ _ strands
    cases held
  · rw [written]
    exact Disk.node?_put_self (by decide)

end Failure

end Recording

end PcmLink
