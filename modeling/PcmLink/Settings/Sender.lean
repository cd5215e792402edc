import PcmLink.Frame
import PcmLink.Settings.Capture
import PcmLink.Speed.Tool
import PcmLink.Text.Utf8

/-!
# Settings of a sender

Everything a sender is told, with the values of the bench as defaults, and the bytes that it puts
into its frames: those of a text or those of a file.
-/

namespace PcmLink

/-- The settings of a sender. -/
structure SenderSettings where
  /-- The interface to send on. -/
  interface : String := benchInterface
  /-- The endpoint the frames are for. -/
  destination : Address := Address.ofOctets 0xde 0xad 0xbe 0xef 0x00 0x00
  /-- The endpoint the frames are from. -/
  source : Address := Address.ofOctets 0xd8 0xbb 0xc1 0x57 0xaa 0x16
  /-- What the payload is. -/
  protocolType : ProtocolType := ProtocolType.bench
  /-- The payload as text. -/
  payload : String := String.join (List.replicate 32 "01")
  /-- The file that holds the payload instead. -/
  payloadFile : Option String := none
  /-- The time between frames in milliseconds. -/
  interval : Nat := 5000
  /-- The longest payload that the link carries. -/
  payloadLimit : UInt64 := 1500
  /-- The program that forces the speed of the link. -/
  linkTool : String := Tool.standard
  deriving DecidableEq

namespace SenderSettings

/-- The whole seconds of the time between frames. -/
def intervalSeconds (settings : SenderSettings) : Nat := settings.interval / 1000

/-- What the whole seconds leave of the time between frames, in nanoseconds. -/
def intervalNanoseconds (settings : SenderSettings) : Nat := settings.interval % 1000 * 1000000

/-- The bytes of the payload; `read` reads a file. -/
def payloadBytes {m : Type → Type} [Monad m] (read : String → m (Except IoError (List UInt8)))
    (settings : SenderSettings) : m (Except Error (List UInt8)) :=
  match settings.payloadFile with
  | none => return .ok (Text.Utf8.encode settings.payload)
  | some path => do
    match ← read path with
    | .ok bytes => return .ok bytes
    | .error failure => return .error (.configuration none (.payloadUnreadable path failure))

end SenderSettings

end PcmLink
