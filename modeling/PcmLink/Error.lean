import PcmLink.Document.Shape
import PcmLink.Frame
import PcmLink.IoError

/-!
# Errors of the transport

Every way in which sending, capturing and recording fails, with its wording, and which of them end
the activity that meets them. A failure of a raw socket is classified by its number: a lack of
privilege and a missing interface are told apart from all others. A sum of lengths that is no
machine word is no failure that is told to anyone: what meets it is given up where it stands.
-/

namespace PcmLink

/-- Why WAVE data is refused. -/
inductive WaveDefect where
  /-- The data ends inside the named part. -/
  | truncated (part : String)
  /-- The data does not begin with the signature. -/
  | missingSignature
  /-- A format chunk is shorter than a format. -/
  | shortFormat (length : Nat)
  /-- The samples are not sixteen-bit linear samples. -/
  | unsupported (format bits : Nat)
  /-- The samples come before their format. -/
  | dataBeforeFormat
  /-- More samples than a header can count. -/
  | tooManySamples (count : Nat)
  /-- A sample rate whose byte rate a header cannot hold. -/
  | rateTooHigh (rate : Nat)
  /-- A defect in the words of whoever found it. -/
  | described (text : String)
  deriving DecidableEq, Repr

/-- The wording of a defect. -/
def WaveDefect.message : WaveDefect → String
  | .truncated part => s!"truncated {part}"
  | .missingSignature => "missing RIFF/WAVE signature"
  | .shortFormat length => s!"fmt chunk of {length} bytes"
  | .unsupported format bits => s!"unsupported format {format} with {bits} bits per sample"
  | .dataBeforeFormat => "data before fmt"
  | .tooManySamples count => s!"{count} samples do not fit"
  | .rateTooHigh rate => s!"sample rate of {rate} Hz does not fit"
  | .described text => text

/-- Why settings are refused. -/
inductive SettingsDefect where
  /-- The text is no document. -/
  | noDocument
  /-- A key is none of the settings. -/
  | unknownKey (key : String) (known : List String)
  /-- The value of a setting is refused. -/
  | mismatch (refusal : Mismatch)
  /-- The file of the settings cannot be read. -/
  | unreadable (failure : IoError)
  /-- The file of the payload cannot be read. -/
  | payloadUnreadable (path : String) (failure : IoError)
  /-- A defect in the words of whoever found it. -/
  | described (text : String)
  deriving DecidableEq, Repr

/-- The wording of a defect. -/
def SettingsDefect.message : SettingsDefect → String
  | .noDocument => "TOML error"
  | .unknownKey key known =>
    let names := ", ".intercalate (known.map fun name => s!"`{name}`")
    s!"unknown field `{key}`, expected one of {names}"
  | .mismatch refusal => refusal.message settingsFormat
  | .unreadable failure => failure.message
  | .payloadUnreadable path failure => s!"payload file {path}: {failure.message}"
  | .described text => text

/-- The wording of a defect where the text of the document is not explained: everything wrong with
it is one and the same error. -/
def SettingsDefect.brief : SettingsDefect → SettingsDefect
  | .unknownKey .. | .mismatch _ => .noDocument
  | defect => defect

/-- An error of the transport. -/
inductive Error where
  /-- Raw sockets are not permitted on the interface. -/
  | permissionDenied (interface : String)
  /-- There is no such interface. -/
  | interfaceNotFound (interface : String)
  /-- Bytes are no frame. -/
  | frame (error : FrameError)
  /-- A frame exceeds the limit of the link. -/
  | frameTooLong (length limit : Nat)
  /-- A link speed is not supported. -/
  | invalidSpeed (option : String)
  /-- The link accepted only a part of a frame. -/
  | truncated (sent expected : Nat)
  /-- The tool that configures the link failed. -/
  | linkControl (command status : String)
  /-- There are no samples and an empty recording was refused. -/
  | noSamples
  /-- The run was stopped. -/
  | cancelled
  /-- Data is no WAVE file. -/
  | invalidWave (defect : WaveDefect)
  /-- Settings are refused, those of a file if it is named. -/
  | configuration (file : Option String) (defect : SettingsDefect)
  /-- The system failed. -/
  | io (failure : IoError)
  /-- A sum of lengths is no machine word; the activity is given up without an answer. -/
  | overflow
  deriving DecidableEq, Repr

namespace Error

/-- The wording of an error. -/
def message : Error → String
  | .permissionDenied interface =>
    s!"permission denied opening a raw socket on {interface} (run as root or grant CAP_NET_RAW)"
  | .interfaceNotFound interface => s!"network interface not found: {interface}"
  | .frame error => error.message
  | .frameTooLong length limit =>
    s!"frame of {length} bytes exceeds the link limit of {limit} bytes"
  | .invalidSpeed option => s!"invalid link speed option: {Text.quoted option}"
  | .truncated sent expected => s!"truncated send: {sent} of {expected} bytes accepted"
  | .linkControl command status => s!"link configuration command `{command}` failed: {status}"
  | .noSamples => "no samples to write"
  | .cancelled => "cancelled"
  | .invalidWave defect => s!"invalid WAVE data: {defect.message}"
  | .configuration none defect => s!"configuration error: {defect.message}"
  | .configuration (some file) defect => s!"configuration error: {file}: {defect.message}"
  | .io failure => s!"I/O error: {failure.message}"
  | .overflow => "attempt to add with overflow"

/-- The error ends the activity that meets it. Defects of one frame, refused commands and short
writes do not. -/
def isFatal : Error → Bool
  | .frame _ | .frameTooLong .. | .invalidSpeed _ | .truncated .. | .linkControl .. => false
  | _ => true

/-- Classify a failure of a raw socket on an interface. -/
def ofSocket (failure : IoError) (interface : String) : Error :=
  if failure = .os Errno.notPermitted ∨ failure = .os Errno.accessDenied then
    .permissionDenied interface
  else if failure = .os Errno.noDevice ∨ failure = .os Errno.noDeviceOrAddress then
    .interfaceNotFound interface
  else if failure.kind = .permissionDenied then .permissionDenied interface
  else .io failure

/-- A failure of a socket is a lack of privilege, a missing interface, or itself. -/
theorem ofSocket_cases (failure : IoError) (interface : String) :
    ofSocket failure interface = .permissionDenied interface ∨
      ofSocket failure interface = .interfaceNotFound interface ∨
      ofSocket failure interface = .io failure := by
  unfold ofSocket
  split
  · exact .inl rfl
  · split
    · exact .inr (.inl rfl)
    · split
      · exact .inl rfl
      · exact .inr (.inr rfl)

/-- A failure of a socket is fatal. -/
theorem isFatal_ofSocket (failure : IoError) (interface : String) :
    (ofSocket failure interface).isFatal = true := by
  rcases ofSocket_cases failure interface with denied | missing | other
  · rw [denied]
    rfl
  · rw [missing]
    rfl
  · rw [other]
    rfl

/-- A failure of a socket is told. -/
theorem ofSocket_ne_overflow (failure : IoError) (interface : String) :
    ofSocket failure interface ≠ .overflow := by
  rcases ofSocket_cases failure interface with denied | missing | other
  · rw [denied]
    nofun
  · rw [missing]
    nofun
  · rw [other]
    nofun

/-- An error that whoever fails tells of. -/
abbrev Told := { error : Error // error ≠ .overflow }

end Error

end PcmLink
