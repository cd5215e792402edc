import PcmLink.Capture

/-!
# Settings of a recording

Everything a recording is told, with the values of the bench as defaults.
-/

namespace PcmLink

/-- The interface of the bench. -/
def benchInterface : String := "enp3s0"

/-- The settings of a recording. -/
structure CaptureSettings where
  /-- The interface to capture on. -/
  interface : String := benchInterface
  /-- How many frames are received before anything is written. -/
  count : Nat := 600
  /-- The length of the trailer of each frame. -/
  trailerLength : UInt64 := 4
  /-- The sample rate of the recording. -/
  sampleRate : UInt32 := 48000
  /-- The size of the buffer that receives a frame. -/
  readBufferSize : Nat := 65535
  /-- How long one receive waits, in milliseconds, unless for good. -/
  readTimeout : Option Nat := some 500
  /-- The only type wanted, if there is one. -/
  wanted : Option ProtocolType := none
  /-- Frames for other endpoints are received too. -/
  promiscuous : Bool := true
  /-- Where the trace is written. -/
  tracePath : String := "payload.txt"
  /-- Where the WAVE file is written. -/
  wavePath : String := "output.wav"
  /-- A recording without samples is an error. -/
  rejectEmpty : Bool := false
  deriving DecidableEq, Repr

/-- What the capture of a recording collects. -/
def CaptureSettings.options (settings : CaptureSettings) : CaptureOptions where
  count := settings.count
  trailerLength := settings.trailerLength
  wanted := settings.wanted

end PcmLink
