import PcmLink.Disk
import PcmLink.Reassembly
import PcmLink.Settings.Capture
import PcmLink.Wave.Reader
import PcmLink.Wave.Writer

/-!
# Recordings

A recording captures frames, joins their payloads while tracing them, and writes the samples of
the stream as a WAVE file. Both files are drafts until everything is collected and written; then
the WAVE file gets its name and after it the trace. Whatever fails before that throws both drafts
away.
-/

namespace PcmLink

namespace Wave

/-- Write a file of mono samples at a path. -/
def save (disk : Disk) (path : String) (samples : List Int16) (sampleRate : UInt32)
    (mishaps : Mishaps := {}) : Except Error Unit × Disk :=
  match disk.draft path mishaps with
  | .error failure => (.error (.io failure), disk)
  | .ok (draft, disk) =>
    match write draft.sink samples sampleRate with
    | (.error error, _) => (.error error, disk.discard)
    | (.ok (), sink) =>
      match draft.flush with
      | .error failure => (.error (.io failure), disk.discard)
      | .ok () =>
        match disk.commit draft sink.written with
        | (.error failure, disk) => (.error (.io failure), disk)
        | (.ok (), disk) => (.ok (), disk)

/-- Read the format and the samples of a file at a path. -/
def load (disk : Disk) (path : String) : Except Error (Format × List Int16) :=
  match disk.read path with
  | .error failure => .error (.io failure)
  | .ok bytes => read (.ofBytes bytes)

end Wave

namespace Recording

/-- What a recording came to. -/
structure Report where
  /-- Frames received. -/
  received : Nat
  /-- Frames whose payload is part of the recording. -/
  frames : Nat
  /-- Frames dropped for being too short. -/
  dropped : Nat
  /-- Frames passed over for their type. -/
  filtered : Nat
  /-- The length of the joined payloads. -/
  payloadBytes : Nat
  /-- How many samples were written. -/
  samples : Nat
  /-- Where the trace is. -/
  tracePath : String
  /-- Where the WAVE file is. -/
  wavePath : String
  deriving DecidableEq, Repr

/-- What joining the payloads of a capture comes to. -/
structure Collection where
  /-- The error that ended it, of the capture or of the trace, if one did. -/
  error : Option Error
  /-- The capture afterwards. -/
  capture : Capture
  /-- The payloads joined and traced. -/
  joined : Reassembly
  /-- What the link delivers afterwards. -/
  inbound : Inbound
  /-- The warnings on the way. -/
  warnings : List Warning

/-- Join the payloads of what a capture yields, each before the next is asked for, until the
capture ends or a payload cannot be traced. -/
def collect (capture : Capture) (joined : Reassembly) (inbound : Inbound) : Collection :=
  let turn := capture.next inbound
  match _ : turn.item with
  | none =>
    { error := none, capture := turn.capture, joined, inbound := turn.inbound
      warnings := turn.warnings }
  | some (.error error) =>
    { error := some error, capture := turn.capture, joined, inbound := turn.inbound
      warnings := turn.warnings }
  | some (.ok frame) =>
    match joined.push frame.payload with
    | (.error failure, joined) =>
      { error := some (.io failure), capture := turn.capture, joined, inbound := turn.inbound
        warnings := turn.warnings }
    | (.ok (), joined) =>
      let rest := collect turn.capture joined turn.inbound
      { rest with warnings := turn.warnings ++ rest.warnings }
termination_by inbound.arrivals.length
decreasing_by exact (Capture.length_nextFrom capture inbound.stopped inbound.arrivals).2 frame ‹_›

/-- Write what was collected: the WAVE file first, then the trace whose draft was begun before. -/
def publish (settings : CaptureSettings) (samples : List Int16) (trace : Draft)
    (traced : List UInt8) (disk : Disk) (waveMishaps : Mishaps := {}) :
    Except Error Unit × Disk :=
  match Wave.save disk settings.wavePath samples settings.sampleRate waveMishaps with
  | (.error error, disk) => (.error error, disk.discard)
  | (.ok (), disk) =>
    match disk.commit trace traced with
    | (.error failure, disk) => (.error (.io failure), disk)
    | (.ok (), disk) => (.ok (), disk)

/-- The end of a recording: its report or error, the disk, and the warnings on the way. -/
structure Outcome where
  /-- The report, or the error that ended the recording. -/
  result : Except Error Report
  /-- The disk afterwards. -/
  disk : Disk
  /-- The warnings on the way. -/
  warnings : List Warning := []

/-- The report on a collection whose samples were written. -/
def Collection.report (collected : Collection) (settings : CaptureSettings)
    (samples : List Int16) : Report where
  received := collected.capture.received
  frames := collected.capture.captured
  dropped := collected.capture.dropped
  filtered := collected.capture.filtered
  payloadBytes := collected.joined.stream.length
  samples := samples.length
  tracePath := settings.tracePath
  wavePath := settings.wavePath

/-- Record what a link delivers. -/
def run (settings : CaptureSettings) (inbound : Inbound) (disk : Disk)
    (traceMishaps waveMishaps : Mishaps := {}) : Outcome :=
  match disk.draft settings.tracePath traceMishaps with
  | .error failure => { result := .error (.io failure), disk }
  | .ok (trace, disk) =>
    let capture : Capture := { options := settings.options, interface := settings.interface }
    let collected := collect capture { trace := trace.sink } inbound
    let warnings := collected.warnings
    match collected.error, trace.flush with
    | some error, _ => { result := .error error, disk := disk.discard, warnings }
    | none, .error failure => { result := .error (.io failure), disk := disk.discard, warnings }
    | none, .ok () =>
      let samples := Samples.ofWire collected.joined.stream
      if samples = [] ∧ settings.rejectEmpty then
        { result := .error .noSamples, disk := disk.discard, warnings }
      else
        let traced := collected.joined.trace.written
        match publish settings samples trace traced disk waveMishaps with
        | (.error error, disk) => { result := .error error, disk, warnings }
        | (.ok (), disk) => { result := .ok (collected.report settings samples), disk, warnings }

end Recording

end PcmLink
