import PcmLink.Settings.Capture

/-!
# Settings of a channel

What a raw channel is opened with. A channel to receive on takes the buffer, the wait and the
promiscuity of a recording and is opened for every protocol.
-/

namespace PcmLink

/-- The number of every protocol. -/
def everyProtocol : UInt16 := 0x0003

/-- The settings of a raw channel. -/
structure ChannelSettings where
  /-- The size of the buffer that receives a frame. -/
  readBufferSize : Nat := 65536
  /-- How long a receive waits, in milliseconds, unless for good. -/
  readTimeout : Option Nat := none
  /-- How long a write waits, in milliseconds, unless for good. -/
  writeTimeout : Option Nat := none
  /-- The protocol that the channel is opened for. -/
  protocol : UInt16 := everyProtocol
  /-- Frames for other endpoints are received too. -/
  promiscuous : Bool := true
  deriving DecidableEq, Repr

/-- The channel of a recording. -/
def CaptureSettings.channel (settings : CaptureSettings) : ChannelSettings where
  readBufferSize := settings.readBufferSize
  readTimeout := settings.readTimeout
  promiscuous := settings.promiscuous

end PcmLink
