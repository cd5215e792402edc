import PcmLink.Proofs.Capture.Account
import PcmLink.Proofs.Capture.Foreign
import PcmLink.Recording

/-!
# Recordings amid foreign frames

A recording joins and traces the payloads of what its capture yields, and foreign frames among the
arrivals change none of these. So they change neither its result, but for the number of frames
passed over, nor what it leaves on the disk, nor its warnings. A frame with a header of another type
that is too short for its trailer is not foreign: it is dropped, and counts as received.
-/

namespace PcmLink.Recording

/-- The collection with so many more frames passed over, and other arrivals left. -/
def Collection.among (collected : Collection) (passed : Nat) (left : List Arrival) : Collection :=
  { collected with
    capture := collected.capture.passing passed
    inbound := { collected.inbound with arrivals := left } }

section Collect

variable {capture : Capture} {stopped : Bool} {arrivals : List Arrival} {turn : Capture.Turn}

/-- Collecting ends where the capture has no item. -/
theorem collect_of_none (next : capture.nextFrom stopped arrivals = turn)
    (ended : turn.item = none) (joined : Reassembly) :
    collect capture joined { arrivals, stopped } =
      { error := none, capture := turn.capture, joined, inbound := turn.inbound
        warnings := turn.warnings } := by
  rw [collect]
  simp only [Capture.next, next]
  split <;> simp_all

/-- Collecting ends with the error that the capture yields. -/
theorem collect_of_error (next : capture.nextFrom stopped arrivals = turn) {error : Error}
    (failed : turn.item = some (.error error)) (joined : Reassembly) :
    collect capture joined { arrivals, stopped } =
      { error := some error, capture := turn.capture, joined, inbound := turn.inbound
        warnings := turn.warnings } := by
  rw [collect]
  simp only [Capture.next, next]
  split <;> simp_all

/-- A frame that the capture yields is pushed, and collecting goes on unless its payload cannot be
traced. -/
theorem collect_of_frame (next : capture.nextFrom stopped arrivals = turn) {frame : CapturedFrame}
    (yielded : turn.item = some (.ok frame)) (joined : Reassembly) :
    collect capture joined { arrivals, stopped } =
      match joined.push frame.payload with
      | (.error failure, joined) =>
        { error := some (.io failure), capture := turn.capture, joined, inbound := turn.inbound
          warnings := turn.warnings }
      | (.ok (), joined) =>
        let rest := collect turn.capture joined turn.inbound
        { rest with warnings := turn.warnings ++ rest.warnings } := by
  rw [collect]
  simp only [Capture.next, next]
  split
  · simp_all
  · simp_all
  · rename_i other found
    have same : frame = other := by simpa [next, yielded] using found
    subst same
    rfl

end Collect

/-- Foreign frames among the arrivals change nothing of what is joined and traced. -/
theorem exists_collect_among {options : CaptureOptions} {capture : Capture}
    (same : capture.options = options) (joined : Reassembly) {quiet : Inbound}
    {noisy : List Arrival} (between : Arrival.Interspersed options quiet.arrivals noisy)
    (passed : Nat) :
    ∃ more left,
      collect (capture.passing passed) joined { quiet with arrivals := noisy } =
        (collect capture joined quiet).among more left := by
  fun_induction collect capture joined quiet generalizing passed noisy with
  | case1 capture joined quiet turn ended =>
    obtain ⟨more, left, _, _, next⟩ :=
      Capture.exists_nextFrom_among between same quiet.stopped passed
    refine ⟨more, left, ?_⟩
    rw [collect_of_none next ended]
    rfl
  | case2 capture joined quiet turn error failed =>
    obtain ⟨more, left, _, _, next⟩ :=
      Capture.exists_nextFrom_among between same quiet.stopped passed
    refine ⟨more, left, ?_⟩
    rw [collect_of_error next failed]
    rfl
  | case3 capture joined quiet turn frame yielded failure after pushed =>
    obtain ⟨more, left, _, _, next⟩ :=
      Capture.exists_nextFrom_among between same quiet.stopped passed
    refine ⟨more, left, ?_⟩
    rw [collect_of_frame next yielded, pushed]
    rfl
  | case4 capture joined quiet turn frame yielded after pushed rest =>
    rename_i ih
    obtain ⟨more, left, strewn, kept, next⟩ :=
      Capture.exists_nextFrom_among between same quiet.stopped passed
    obtain ⟨total, behind, collected⟩ := ih kept strewn more
    refine ⟨total, behind, ?_⟩
    have later : collect (turn.capture.passing more) after
        { turn.inbound with arrivals := left } = rest.among total behind := collected
    rw [collect_of_frame next yielded, pushed]
    exact congrArg (fun rest : Collection =>
      { rest with warnings := turn.warnings ++ rest.warnings }) later

/-- The report with so many more frames passed over. -/
def Report.passing (report : Report) (passed : Nat) : Report :=
  { report with filtered := report.filtered + passed }

/-- The outcome with so many more frames passed over, if there is a report. -/
def Outcome.passing (outcome : Outcome) (passed : Nat) : Outcome :=
  { outcome with result := outcome.result.map (·.passing passed) }

/-- Foreign frames among the arrivals change nothing of a recording but how many frames were passed
over, whatever goes wrong with its files. -/
theorem exists_run_among (settings : CaptureSettings) {quiet : Inbound} {noisy : List Arrival}
    (between : Arrival.Interspersed settings.options quiet.arrivals noisy) (disk : Disk)
    (traceMishaps waveMishaps : Mishaps) :
    ∃ passed,
      run settings { quiet with arrivals := noisy } disk traceMishaps waveMishaps =
        (run settings quiet disk traceMishaps waveMishaps).passing passed := by
  cases drafted : disk.draft settings.tracePath traceMishaps with
  | error failure =>
    refine ⟨0, ?_⟩
    simp only [run, drafted]
    rfl
  | ok begun =>
    obtain ⟨trace, begun⟩ := begun
    let capture : Capture := { options := settings.options, interface := settings.interface }
    have same : capture.options = settings.options := rfl
    obtain ⟨passed, left, collected⟩ :=
      exists_collect_among same { trace := trace.sink } between 0
    refine ⟨passed, ?_⟩
    rw [capture.passing_zero] at collected
    unfold run
    rw [drafted]
    dsimp only
    rw [collected]
    generalize collect capture { trace := trace.sink } quiet = alone
    cases failed : alone.error with
    | some error =>
      simp only [Collection.among, failed]
      rfl
    | none =>
      cases trace.flush with
      | error failure =>
        simp only [Collection.among, failed]
        rfl
      | ok _ =>
        simp only [Collection.among, failed]
        split
        · rfl
        · split <;> rfl

/-- Foreign frames put anywhere among the arrivals leave a capture its frames, its error, its
warnings and its counters, and a recording its result, its disk and its warnings: only the number of
frames passed over can be greater. Nothing is put among the arrivals that are left but foreign
frames. -/
theorem foreign_frames_leave_recording (settings : CaptureSettings) (interface : String)
    (heedsStop : Bool) {quiet : Inbound} {noisy : List Arrival}
    (between : Arrival.Interspersed settings.options quiet.arrivals noisy) :
    let capture : Capture := { options := settings.options, interface, heedsStop }
    let amid : Inbound := { quiet with arrivals := noisy }
    let alone := capture.drain quiet
    (∃ passed left,
      Arrival.Interspersed settings.options alone.inbound.arrivals left ∧
        capture.drain amid =
          { alone with
            capture := { alone.capture with filtered := alone.capture.filtered + passed }
            inbound := { alone.inbound with arrivals := left } }) ∧
      ∀ disk traceMishaps waveMishaps, ∃ passed,
        let recorded := run settings quiet disk traceMishaps waveMishaps
        run settings amid disk traceMishaps waveMishaps =
          { recorded with
            result := recorded.result.map fun report =>
              { report with filtered := report.filtered + passed } } := by
  intro capture amid alone
  refine ⟨?_, exists_run_among settings between⟩
  have same : capture.options = settings.options := rfl
  have drained := Capture.exists_drain_among same between 0
  rw [capture.passing_zero] at drained
  exact drained

/-- Frames of another type before, between and behind two of the bench's change nothing of their
recording. -/
theorem foreign_frames_leave_recording_thrice :
    let settings : CaptureSettings := { count := 2, wanted := some ProtocolType.bench }
    let foreign : Arrival := { reception := .frame (List.replicate 18 8) }
    let framed (payload : List UInt8) : Arrival :=
      { reception := .frame (List.replicate 12 0 ++ [0x00, 0x40] ++ payload ++
          List.replicate 4 9) }
    let quiet : Inbound := { arrivals := [framed [1, 2], framed [3, 4]] }
    let noisy := [foreign, framed [1, 2], foreign, framed [3, 4], foreign]
    let capture : Capture := { options := settings.options, interface := settings.interface }
    Arrival.Interspersed settings.options quiet.arrivals noisy ∧
      (capture.drain { arrivals := noisy }).frames.map CapturedFrame.payload =
        [[1, 2], [3, 4]] ∧
      (run settings { arrivals := noisy } {}).disk = (run settings quiet {}).disk := by
  intro settings foreign framed quiet noisy capture
  have unwanted : settings.options.Foreign (List.replicate 18 8) :=
    ⟨by decide, CapturedFrame.exists_parse?_of_le (by decide) (by decide), ProtocolType.bench, rfl,
      by decide⟩
  have between : Arrival.Interspersed settings.options quiet.arrivals noisy :=
    .put unwanted (.keep _ (.put unwanted (.keep _ (.put unwanted .nil))))
  obtain ⟨⟨passed, left, _, drained⟩, recorded⟩ :=
    foreign_frames_leave_recording settings settings.interface true between
  obtain ⟨_, ran⟩ := recorded {} {} {}
  have settles : Capture.Settles settings.options settings.interface _ {} _
      (capture.drain quiet) :=
    Capture.settles_ofScript settings.options settings.interface true
      (quiet.arrivals.map (·.reception)) (by decide)
  have payloads : (capture.drain quiet).frames.map CapturedFrame.payload = [[1, 2], [3, 4]] := by
    have frames := settles.frames
    rw [List.map_nil, List.nil_append] at frames
    rw [CapturedFrame.map_payload frames.symm]
    decide
  refine ⟨between, ?_, ?_⟩
  · rw [show capture.drain { arrivals := noisy } = _ from drained]
    exact payloads
  · rw [show run settings { arrivals := noisy } {} = _ from ran]

/-- A frame of another type that has a whole header but no room for its trailer takes the place of
a wanted frame: with it nothing is yielded, where without it a frame is. -/
theorem headed_frame_without_trailer_displaces :
    let options : CaptureOptions := { count := 1, wanted := some ProtocolType.bench }
    let headed : List UInt8 := List.replicate 12 0 ++ [0x08, 0x00]
    let framed : List UInt8 := List.replicate 12 0 ++ [0x00, 0x40, 1, 2] ++ List.replicate 4 9
    let capture : Capture := { options, interface := "eth0" }
    let alone := capture.drain (.ofReceptions [.frame framed])
    let amid := capture.drain (.ofReceptions [.frame headed, .frame framed])
    14 ≤ headed.length ∧ (headed.drop 12).take 2 ≠ ProtocolType.bench.bytes ∧
      alone.frames.map CapturedFrame.payload = [[1, 2]] ∧ alone.capture.dropped = 0 ∧
      amid.frames = [] ∧ amid.capture.captured = 0 ∧ amid.capture.dropped = 1 := by
  intro options headed framed capture alone amid
  have inRange : 14 + options.trailerLength.toNat < UInt64.size := by decide
  have settlesAlone : Capture.Settles options "eth0" _ {} _ alone :=
    Capture.settles_ofScript options "eth0" true [.frame framed] inRange
  have settlesAmid : Capture.Settles options "eth0" _ {} _ amid :=
    Capture.settles_ofScript options "eth0" true [.frame headed, .frame framed] inRange
  have accountAlone : Account.ofScript options [.frame framed] =
      { taken := 1, received := 1, captured := 1, frames := [framed] } := by decide
  have accountAmid : Account.ofScript options [.frame headed, .frame framed] =
      { taken := 1, received := 1, dropped := 1 } := by decide
  rw [accountAlone] at settlesAlone
  rw [accountAmid] at settlesAmid
  have framesAlone : alone.frames.map CapturedFrame.parts =
      [framed].map (·, options.trailerLength) := settlesAlone.frames.symm
  have framesAmid : amid.frames = [] := List.map_eq_nil_iff.mp settlesAmid.frames.symm
  refine ⟨by decide, by decide, ?_, settlesAlone.counters.dropped, framesAmid,
    settlesAmid.counters.captured, settlesAmid.counters.dropped⟩
  rw [CapturedFrame.map_payload framesAlone]
  decide

end PcmLink.Recording
