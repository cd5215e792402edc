import PcmLink.Frame

/-!
# Captured frames

A capture delivers a frame with the checksum of the link behind it. The length of this trailer is
a setting; the payload is what stands between header and trailer. Bytes are taken as a frame only
if they hold both, so that a frame always has its payload. How many bytes that takes is a machine
word; for a trailer so long that it is none, nothing is taken and nothing is refused.
-/

namespace PcmLink

/-- A frame as it came off the wire, trailer included. -/
structure CapturedFrame where
  /-- The bytes received. -/
  raw : List UInt8
  /-- How many of them at the end are the trailer. -/
  trailerLength : UInt64
  /-- The bytes hold a header and the trailer. -/
  long : 14 + trailerLength.toNat ≤ raw.length := by decide
  deriving DecidableEq, Repr

namespace CapturedFrame

/-- Take received bytes as a frame, if they hold a header and a trailer. There is no answer if the
fewest bytes that do are no machine word. -/
def parse? (raw : List UInt8) (trailerLength : UInt64) :
    Option (Except FrameError CapturedFrame) :=
  match counted : Frame.lengthWith? trailerLength with
  | none => none
  | some least =>
    if short : raw.length < least then some (.error (.tooShort raw.length least))
    else
      have same := (Frame.lengthWith?_eq_some_iff.mp counted).1
      some (.ok { raw, trailerLength, long := same ▸ Nat.not_lt.mp short })

/-- The header fields; the payload of this view still ends with the trailer. -/
def header (frame : CapturedFrame) : Frame := Frame.view frame.raw

/-- The protocol type in the header. -/
def protocolType (frame : CapturedFrame) : ProtocolType := frame.header.protocolType

/-- The bytes between header and trailer. -/
def payload (frame : CapturedFrame) : List UInt8 :=
  (frame.raw.take (frame.raw.length - frame.trailerLength.toNat)).drop Frame.headerWidth

/-- A captured frame on one line. -/
def summary (frame : CapturedFrame) : String :=
  Frame.lineRecord "CapturedFrame" [("header", frame.header.summary),
    ("payload_len", toString frame.payload.length),
    ("trailer_len", toString frame.trailerLength.toNat)]

end CapturedFrame

end PcmLink
