import PcmLink.Document
import PcmLink.Settings.Sender

/-!
# Reading settings

Settings are read from the entries of a document in their order, each replacing a default; the
first entry that is no setting or has a refused value ends the reading. A file of settings is read
as a whole before any of its entries, and its errors name it.
-/

namespace PcmLink

/-- A setting of a program: its key, and how a value that stands under the key is stored. -/
structure Setting (σ : Type) where
  /-- The key. -/
  key : String
  /-- Store a value. -/
  store : Shape → σ → Except Mismatch σ

namespace Setting

variable {σ : Type}

/-- A setting that reads its value and stores what was read. -/
def reading {α : Type} (key : String) (read : Shape → Except Mismatch α) (store : σ → α → σ) :
    Setting σ where
  key := key
  store shape settings := (read shape).map (store settings)

/-- The limit of machine words. -/
def wordLimit : Nat := UInt64.size - 1

/-- Read a text. -/
def text : Shape → Except Mismatch String := Shape.asText "a string"

/-- Read a path. -/
def path : Shape → Except Mismatch String := Shape.asText "path string"

/-- Read a count. -/
def count : Shape → Except Mismatch Nat := Shape.asNatural wordLimit "usize"

/-- Read a time in milliseconds. -/
def milliseconds : Shape → Except Mismatch Nat := Shape.asNatural wordLimit "u64"

/-- Read a rate. -/
def rate : Shape → Except Mismatch Nat := Shape.asNatural (UInt32.size - 1) "u32"

/-- Store the value of one entry. -/
def enter (known : List (Setting σ)) (settings : σ) (entry : String × Shape) :
    Except SettingsDefect σ :=
  match known.find? (·.key == entry.1) with
  | none => .error (.unknownKey entry.1 (known.map Setting.key))
  | some setting => (setting.store entry.2 settings).mapError .mismatch

/-- Store the values of all entries, in order. -/
def enterAll (known : List (Setting σ)) (settings : σ) (entries : List (String × Shape)) :
    Except SettingsDefect σ :=
  entries.foldlM (enter known) settings

end Setting

/-- The settings of a sender by key, in the order in which a refusal lists them. -/
def SenderSettings.known : List (Setting SenderSettings) :=
  [.reading "interface" Setting.text fun settings interface => { settings with interface },
    .reading "destination" Address.ofShape fun settings destination =>
      { settings with destination },
    .reading "source" Address.ofShape fun settings source => { settings with source },
    .reading "protocol_type" ProtocolType.ofShape fun settings protocolType =>
      { settings with protocolType },
    .reading "payload" Setting.text fun settings payload => { settings with payload },
    .reading "payload_file" Setting.path fun settings file =>
      { settings with payloadFile := some file },
    .reading "interval_ms" Setting.milliseconds fun settings interval =>
      { settings with interval },
    .reading "mtu" Setting.count fun settings limit =>
      { settings with payloadLimit := UInt64.ofNat limit },
    .reading "link_tool" Setting.text fun settings linkTool => { settings with linkTool }]

/-- The settings of a recording by key, in the order in which a refusal lists them. -/
def CaptureSettings.known : List (Setting CaptureSettings) :=
  [.reading "interface" Setting.text fun settings interface => { settings with interface },
    .reading "count" Setting.count fun settings count => { settings with count },
    .reading "trailer_len" Setting.count fun settings length =>
      { settings with trailerLength := UInt64.ofNat length },
    .reading "sample_rate" Setting.rate fun settings rate =>
      { settings with sampleRate := UInt32.ofNat rate },
    .reading "read_buffer_size" Setting.count fun settings readBufferSize =>
      { settings with readBufferSize },
    .reading "read_timeout_ms" Setting.milliseconds fun settings timeout =>
      { settings with readTimeout := some timeout },
    .reading "ethertype" ProtocolType.ofShape fun settings wanted =>
      { settings with wanted := some wanted },
    .reading "promiscuous" Shape.asBoolean fun settings promiscuous =>
      { settings with promiscuous },
    .reading "trace_path" Setting.path fun settings tracePath => { settings with tracePath },
    .reading "wav_path" Setting.path fun settings wavePath => { settings with wavePath },
    .reading "reject_empty" Shape.asBoolean fun settings rejectEmpty =>
      { settings with rejectEmpty }]

namespace Settings

variable {σ : Type}

/-- Read settings from the text of a document. -/
def ofText (known : List (Setting σ)) (defaults : σ) (text : String) : Except SettingsDefect σ :=
  match Document.read? text with
  | none => .error .noDocument
  | some entries => Setting.enterAll known defaults entries

/-- Read settings from what reading their file came to. -/
def ofFile (known : List (Setting σ)) (defaults : σ) :
    Except IoError (List UInt8) → Except SettingsDefect σ
  | .error failure => .error (.unreadable failure)
  | .ok bytes =>
    match Text.Utf8.decodeText bytes with
    | none => .error (.unreadable .notText)
    | some text => ofText known defaults text

/-- Load settings from a file, if one is given; `read` reads a file. -/
def load {m : Type → Type} [Monad m] (read : String → m (Except IoError (List UInt8)))
    (known : List (Setting σ)) (defaults : σ) :
    Option String → m (Except Error σ)
  | none => return .ok defaults
  | some path => do
    let bytes ← read path
    return (ofFile known defaults bytes).mapError (.configuration (some path))

end Settings

end PcmLink
