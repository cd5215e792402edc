import PcmLink.ProtocolType

/-!
# Link frames

A frame on the wire is the destination, the source and the protocol type, fourteen bytes in all,
and then the payload. Encoding checks the widths of the three header fields in this order;
decoding needs a whole header and takes everything after it as payload.
-/

namespace PcmLink

/-- A frame of the link layer. -/
structure Frame where
  /-- The endpoint it is for. -/
  destination : Address
  /-- The endpoint it is from. -/
  source : Address
  /-- What the payload is. -/
  protocolType : ProtocolType
  /-- The bytes carried. -/
  payload : List UInt8
  deriving DecidableEq

/-- Why bytes are no frame. -/
inductive FrameError where
  /-- A header field has the wrong width. -/
  | fieldWidth (field : String) (width : WidthError)
  /-- There are fewer bytes than header and trailer need. -/
  | tooShort (length least : Nat)
  deriving DecidableEq, Repr

/-- The wording of a frame error. -/
def FrameError.message : FrameError → String
  | .fieldWidth field width =>
    s!"invalid {field} width: expected {width.expected} bytes, got {width.actual}"
  | .tooShort length least => s!"frame too short: need {least} bytes, have {length}"

namespace Frame

/-- The width of a header in bytes. -/
def headerWidth : Nat := 14

/-- The length of a header and so many bytes more, if it is a machine word. -/
def lengthWith? (more : UInt64) : Option Nat :=
  Option.guard (fun length => length < UInt64.size) (headerWidth + more.toNat)

/-- A length that there is is the sum, and a machine word. -/
theorem lengthWith?_eq_some_iff {more : UInt64} {length : Nat} :
    lengthWith? more = some length ↔
      14 + more.toNat = length ∧ 14 + more.toNat < UInt64.size := by
  rw [lengthWith?, headerWidth, Option.guard_eq_some_iff, decide_eq_true_iff]

/-- There is no length exactly if the sum passes the end of a word. -/
theorem lengthWith?_eq_none_iff {more : UInt64} :
    lengthWith? more = none ↔ UInt64.size ≤ 14 + more.toNat := by
  rw [lengthWith?, headerWidth, Option.guard_eq_none_iff, decide_eq_false_iff_not, Nat.not_lt]

/-- The bytes of a frame on the wire. -/
def bytes (frame : Frame) : List UInt8 :=
  frame.destination.octets ++ frame.source.octets ++ frame.protocolType.bytes ++ frame.payload

/-- A frame from raw header fields. -/
def ofFields (destination source protocolType payload : List UInt8) : Except FrameError Frame := do
  let destination ← (Address.ofBytes destination).mapError (.fieldWidth "destination")
  let source ← (Address.ofBytes source).mapError (.fieldWidth "source")
  let protocolType ← (ProtocolType.ofBytes protocolType).mapError (.fieldWidth "protocol type")
  return { destination, source, protocolType, payload }

/-- The fields of bytes that hold a whole header; a header byte that is missing counts as zero. -/
def view (raw : List UInt8) : Frame where
  destination := Address.ofFront raw
  source := Address.ofFront (raw.drop 6)
  protocolType := ProtocolType.ofFront (raw.drop 12)
  payload := raw.drop 14

/-- The frame that bytes hold. -/
def ofBytes (raw : List UInt8) : Except FrameError Frame :=
  if raw.length < headerWidth then .error (.tooShort raw.length headerWidth) else .ok (view raw)

/-- The fields of a frame as named texts; the payload shows its length. -/
def fields (frame : Frame) : List (String × String) :=
  [("destination", frame.destination.text), ("source", frame.source.text),
    ("protocol_type", frame.protocolType.text), ("payload_len", toString frame.payload.length)]

/-- A named record on one line. -/
def lineRecord (name : String) (fields : List (String × String)) : String :=
  let shown := fields.map fun (field, value) => s!"{field}: {value}"
  name ++ " \x7b " ++ ", ".intercalate shown ++ " \x7d"

/-- A named record with a line for each field. -/
def blockRecord (name : String) (fields : List (String × String)) : String :=
  let shown := fields.map fun (field, value) => s!"    {field}: {value},\n"
  name ++ " \x7b\n" ++ String.join shown ++ "\x7d"

/-- A frame on one line. -/
def summary (frame : Frame) : String := lineRecord "Frame" frame.fields

/-- A frame with a line for each field. -/
def listing (frame : Frame) : String := blockRecord "Frame" frame.fields

end Frame

end PcmLink
