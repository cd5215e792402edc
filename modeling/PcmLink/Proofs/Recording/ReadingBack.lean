import PcmLink.Proofs.Recording.Gathering
import PcmLink.Proofs.Trace
import PcmLink.Proofs.Wave.Grammar

/-!
# Recordings read back

A recording that reports has put its WAVE file at one place and after it its trace at another. Two
paths can lead to one place, whatever they look like, and then the trace is what is left there. No
line of a trace has the letter that WAVE data begins with, so a WAVE file is read back exactly if
the paths lead to two places.
-/

namespace PcmLink

/-- A file that has taken the place of another is read under its name. -/
theorem Disk.read_put_again {disk : Disk} {path : String} {place : Location}
    (named : disk.destination path = .ok place) (bytes others : List UInt8) :
    ((disk.put place (.file bytes)).put place (.file others)).read path = .ok others := by
  have inside := ne_nil_of_destination named
  have free : (disk.put place (.file bytes)).node? place ≠ some .directory := by
    rw [node?_put_self inside]
    simp
  have same : ((disk.put place (.file bytes)).put place (.file others)).SameDirectories disk :=
    (sameDirectories_put free others).trans (sameDirectories_put (free_of_destination named) bytes)
  exact read_of_destination (destination_of_same named same.symm) (node?_put_self inside)

/-- What a write leaves behind was there or was written. -/
theorem Sink.mem_of_mem_write {sink : Sink} {bytes : List UInt8} {byte : UInt8}
    (found : byte ∈ (sink.write bytes).2.written) : byte ∈ sink.written ∨ byte ∈ bytes := by
  have kept : (sink.write bytes).2.written =
      sink.written ++ bytes.take (sink.accepts bytes.length) := by
    unfold write
    dsimp only
    split <;> rfl
  rw [kept] at found
  exact (List.mem_append.mp found).imp_right List.mem_of_mem_take

/-- The letter that WAVE data begins with. -/
def Wave.initial : UInt8 := 0x52

/-- Bytes without the letter that WAVE data begins with are refused for a defect. -/
theorem Wave.exists_defect_of_initial {bytes : List UInt8} (absent : initial ∉ bytes) :
    ∃ defect, read (.ofBytes bytes) = .error (.invalidWave defect) := by
  cases outcome : read (.ofBytes bytes) with
  | ok result =>
    obtain ⟨layout, same, _⟩ := exists_layout_of_read outcome
    rw [Source.bytes_ofBytes] at same
    subst same
    exact absurd (List.mem_cons_self ..) absent
  | error error =>
    have ends : (Source.ofBytes bytes).failure = none := rfl
    obtain ⟨defect, rfl⟩ := exists_defect_of_read ends outcome
    exact ⟨defect, rfl⟩

namespace Trace

/-- No digit is written as the letter that WAVE data begins with. -/
theorem digitChar_ne_initial :
    ∀ n < 16, UInt8.ofNat (Nat.digitChar n).toNat ≠ Wave.initial := by decide

/-- No line has the letter that WAVE data begins with. -/
theorem initial_not_mem_line (payload : List UInt8) : Wave.initial ∉ line payload := by
  intro found
  obtain ⟨c, inside, same⟩ := List.mem_map.mp found
  rcases List.mem_append.mp inside with inside | last
  · rcases digit_or_space_of_mem_lineText inside with rfl | ⟨n, small, rfl⟩
    · exact absurd same (by decide)
    · exact digitChar_ne_initial n small same
  · obtain rfl := List.mem_singleton.mp last
    exact absurd same (by decide)

end Trace

/-- A payload that is pushed leaves the letter out of the trace. -/
theorem Reassembly.initial_not_mem_push {joined : Reassembly}
    (absent : Wave.initial ∉ joined.trace.written) (payload : List UInt8) :
    Wave.initial ∉ (joined.push payload).2.trace.written := by
  have trace : (joined.push payload).2.trace = (joined.trace.write (Trace.line payload)).2 := by
    unfold push
    split <;> simp_all
  rw [trace]
  intro found
  rcases Sink.mem_of_mem_write found with before | inside
  · exact absent before
  · exact Trace.initial_not_mem_line payload inside

namespace Recording

/-- What is collected leaves the letter out of the trace, whatever the trace takes. -/
theorem initial_not_mem_collect {capture : Capture} {joined : Reassembly} {inbound : Inbound}
    (absent : Wave.initial ∉ joined.trace.written) :
    Wave.initial ∉ (collect capture joined inbound).joined.trace.written := by
  fun_induction collect capture joined inbound with
  | case1 | case2 => exact absent
  | case3 capture joined inbound turn frame yielded failure after pushed =>
    have left_out := Reassembly.initial_not_mem_push absent frame.payload
    rw [pushed] at left_out
    exact left_out
  | case4 capture joined inbound turn frame yielded after pushed rest ih =>
    have left_out := Reassembly.initial_not_mem_push absent frame.payload
    rw [pushed] at left_out
    exact ih left_out

/-- A recording puts its WAVE file at a place, and then its trace. -/
structure Publishes (settings : CaptureSettings) (inbound : Inbound) (disk : Disk)
    (traceMishaps waveMishaps : Mishaps) (wavePlace tracePlace : Location) (bytes : List UInt8) :
    Prop where
  /-- The stream is gathered. -/
  gathers : Gathers settings inbound disk traceMishaps
  /-- The WAVE file is saved. -/
  saves : Wave.Saves disk settings.wavePath (collection settings inbound traceMishaps).samples
    settings.sampleRate waveMishaps wavePlace bytes
  /-- The trace gets its name. -/
  commits : disk.Commits settings.tracePath traceMishaps tracePlace

section Publishing

variable {settings : CaptureSettings} {inbound : Inbound} {disk : Disk}
  {traceMishaps waveMishaps : Mishaps} {wavePlace tracePlace : Location} {bytes : List UInt8}

/-- A recording that publishes reports, and both files are on the disk unless one has taken the
place of the other. -/
theorem run_of_publishes
    (publishes : Publishes settings inbound disk traceMishaps waveMishaps wavePlace tracePlace
      bytes) :
    let collected := collection settings inbound traceMishaps
    run settings inbound disk traceMishaps waveMishaps =
      { result := .ok (collected.report settings collected.samples)
        disk := (disk.put wavePlace (.file bytes)).put tracePlace
          (.file collected.joined.trace.written)
        warnings := collected.warnings } := by
  intro collected
  rw [run_of_gathers publishes.gathers]
  simp only [publish_of_commits publishes.saves publishes.commits]
  rfl

/-- A recording that reports has published. -/
theorem exists_publishes_of_run {report : Report}
    (ended : (run settings inbound disk traceMishaps waveMishaps).result = .ok report) :
    ∃ wavePlace tracePlace bytes,
      Publishes settings inbound disk traceMishaps waveMishaps wavePlace tracePlace bytes := by
  by_cases gathers : Gathers settings inbound disk traceMishaps
  · rw [run_of_gathers gathers] at ended
    by_cases saved : ∃ place bytes, Wave.Saves disk settings.wavePath
        (collection settings inbound traceMishaps).samples settings.sampleRate waveMishaps place
        bytes
    · obtain ⟨place, bytes, saves⟩ := saved
      by_cases named : ∃ tracePlace, disk.Commits settings.tracePath traceMishaps tracePlace
      · obtain ⟨tracePlace, commits⟩ := named
        exact ⟨place, tracePlace, bytes, gathers, saves, commits⟩
      · obtain ⟨_, published⟩ := publish_of_not_commits saves (not_exists.mp named)
          (collection settings inbound traceMishaps).joined.trace.written
        simp only [published] at ended
        contradiction
    · obtain ⟨_, published⟩ := publish_of_not_saves
        (fun place bytes saves => saved ⟨place, bytes, saves⟩)
        (traceDraft settings traceMishaps)
        (collection settings inbound traceMishaps).joined.trace.written
      simp only [published] at ended
      contradiction
  · obtain ⟨error, failed⟩ := (run_of_not_gathers gathers).1
    cases failed.symm.trans ended

/-- The WAVE file of a report is read back, with the format of the recording and as many samples as
reported, exactly if the paths of trace and WAVE file lead to two places. If they lead to one, what
is read back there is no WAVE data. -/
theorem report_reads_back_iff {report : Report}
    (ended : (run settings inbound disk traceMishaps waveMishaps).result = .ok report) :
    let loaded := Wave.load (run settings inbound disk traceMishaps waveMishaps).disk
      report.wavePath
    ((∃ samples, loaded = .ok (.mono settings.sampleRate, samples) ∧
          samples.length = report.samples) ↔
        disk.destination settings.tracePath ≠ disk.destination settings.wavePath) ∧
      (disk.destination settings.tracePath = disk.destination settings.wavePath →
        ∃ defect, loaded = .error (.invalidWave defect)) := by
  intro loaded
  obtain ⟨wavePlace, tracePlace, bytes, publishes⟩ := exists_publishes_of_run ended
  have ran := run_of_publishes publishes
  obtain ⟨encodable, same⟩ := Wave.encode_eq_ok_iff.mp publishes.saves.encoded
  have waveNamed := publishes.saves.named
  have traceNamed := publishes.commits.named
  rw [ran] at ended
  obtain rfl := Except.ok.inj ended
  have refused (together : disk.destination settings.tracePath =
      disk.destination settings.wavePath) : ∃ defect, loaded = .error (.invalidWave defect) := by
    rw [traceNamed, waveNamed] at together
    obtain rfl := Except.ok.inj together
    have absent : Wave.initial ∉
        (collection settings inbound traceMishaps).joined.trace.written :=
      initial_not_mem_collect List.not_mem_nil
    obtain ⟨defect, refused⟩ := Wave.exists_defect_of_initial absent
    refine ⟨defect, ?_⟩
    show Wave.load _ settings.wavePath = _
    rw [ran, Wave.load, Disk.read_put_again waveNamed]
    exact refused
  refine ⟨⟨?_, ?_⟩, refused⟩
  · rintro ⟨samples, read, _⟩ together
    obtain ⟨defect, failed⟩ := refused together
    cases failed.symm.trans read
  · intro apart
    rw [traceNamed, waveNamed] at apart
    have elsewhere : tracePlace ≠ wavePlace := fun together => apart (congrArg _ together)
    refine ⟨(collection settings inbound traceMishaps).samples, ?_, rfl⟩
    show Wave.load _ settings.wavePath = _
    rw [ran, Wave.load,
      Disk.read_put_put waveNamed (Disk.free_of_destination traceNamed) elsewhere, same]
    exact Wave.read_data encodable

/-- A recording of one sample whose two paths are the same reports it, and what is then at the path
is no WAVE data. -/
theorem report_reads_back_iff_together :
    let header : List UInt8 :=
      [0xde, 0xad, 0xbe, 0xef, 0, 0, 0xd8, 0xbb, 0xc1, 0x57, 0xaa, 0x16, 0x00, 0x40]
    let script : List Reception := [.frame (header ++ [1, 2] ++ List.replicate 4 0xfc)]
    let settings : CaptureSettings := { count := 1, tracePath := "o.wav", wavePath := "o.wav" }
    let outcome := run settings (.ofReceptions script) {}
    ∃ report, outcome.result = .ok report ∧ report.samples = 1 ∧ report.wavePath = "o.wav" ∧
      ∃ defect, Wave.load outcome.disk report.wavePath = .error (.invalidWave defect) := by
  intro header script settings outcome
  have inRange : 14 + settings.trailerLength.toNat < UInt64.size := by decide
  have delivers : settings.options.Delivers script := by decide
  have payloads : settings.options.payloads script = [[1, 2]] := by decide
  obtain ⟨_, _, samples, _⟩ := collection_of_delivers inRange delivers
  rw [payloads] at samples
  have isName : Path.IsName "o.wav" :=
    ⟨by rfl, by decide, by decide, by decide, by decide, by decide⟩
  have writable : ({} : Disk).Writable settings.wavePath ["o.wav"] :=
    Disk.writable_of_isName isName rfl (by decide) (by decide)
  have publishes : Publishes settings (.ofReceptions script) {} {} {} ["o.wav"] ["o.wav"]
      (Wave.data [258] 48000) := {
    gathers := {
      begins := writable.begins
      unfailed := (collection_unfailed_iff inRange).mpr delivers
      flushed := rfl
      accepted := fun refused => absurd refused.2 (by decide) }
    saves := {
      begins := writable.begins
      encoded := by
        rw [samples]
        exact Wave.encode_eq_ok_iff.mpr ⟨⟨by decide, by decide⟩, rfl⟩
      fits := Sink.fits_of_unlimited rfl _
      flushed := rfl
      unhindered := rfl
      named := writable.named }
    commits := ⟨rfl, writable.named⟩ }
  have ran : outcome = _ := run_of_publishes publishes
  have ended : outcome.result = .ok _ := congrArg Outcome.result ran
  obtain ⟨_, refused⟩ := report_reads_back_iff ended
  exact ⟨_, ended, congrArg List.length samples, rfl, refused rfl⟩

end Publishing

end Recording

end PcmLink
