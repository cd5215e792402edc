import PcmLink.ProtocolType
import PcmLink.Real.Shortest
import PcmLink.Text.Quoted

/-!
# Values of documents

What a document holds in one place, as far as a reader of settings looks at it, and the reading of
such a value as text, as a number, as an address or as a protocol type. Every refusal says what was
found and what was expected. An address and a protocol type are read back from the value they are
stored as.
-/

namespace PcmLink

/-- Settings show numbers written out. -/
def settingsFormat : Binary64.Format := { tiesToEven := false, writtenOut := none }

/-- Stored values show numbers from `1e16` on and those below `1e-5` with an exponent. -/
def storedFormat : Binary64.Format := { tiesToEven := true, writtenOut := some (-5, 15) }

/-- A value of a document; of sequences and maps only that they are such. -/
inductive Shape where
  /-- The value that says that there is none. -/
  | null
  /-- A truth value. -/
  | boolean (value : Bool)
  /-- A whole number. -/
  | integer (value : Int)
  /-- A number of the 64-bit binary format. -/
  | real (value : Binary64)
  /-- A text. -/
  | text (value : String)
  /-- A list of values. -/
  | sequence
  /-- Named values. -/
  | map
  deriving DecidableEq, Repr

/-- Why a value is refused. -/
inductive Mismatch where
  /-- It is a value of another type. -/
  | wrongType (found : Shape) (expected : String)
  /-- It is a number outside the range. -/
  | outOfRange (value : Int) (expected : String)
  /-- It has another length. -/
  | wrongLength (length : Nat) (expected : String)
  /-- Its text is no address. -/
  | address (error : Address.ParseError)
  /-- Its text is no protocol type. -/
  | protocolType (error : ProtocolType.ParseError)
  deriving DecidableEq, Repr

namespace Shape

/-- How a refusal names a value. -/
def describe (format : Binary64.Format) : Shape → String
  | .null => "null"
  | .boolean value => s!"boolean `{value}`"
  | .integer value => s!"integer `{value}`"
  | .real value => s!"floating point `{value.text format}`"
  | .text value => s!"string {Text.quoted value}"
  | .sequence => "sequence"
  | .map => "map"

end Shape

/-- The wording of a refusal. -/
def Mismatch.message (format : Binary64.Format) : Mismatch → String
  | .wrongType found expected => s!"invalid type: {found.describe format}, expected {expected}"
  | .outOfRange value expected => s!"invalid value: integer `{value}`, expected {expected}"
  | .wrongLength length expected => s!"invalid length {length}, expected {expected}"
  | .address error => error.message
  | .protocolType error => error.message

namespace Shape

/-- Read a text; `expected` names what the text is for. -/
def asText (expected : String) : Shape → Except Mismatch String
  | .text value => .ok value
  | found => .error (.wrongType found expected)

/-- Read a truth value. -/
def asBoolean : Shape → Except Mismatch Bool
  | .boolean value => .ok value
  | found => .error (.wrongType found "a boolean")

/-- Read a natural number up to a limit; `expected` names the type with that limit. -/
def asNatural (limit : Nat) (expected : String) : Shape → Except Mismatch Nat
  | .integer value =>
    if 0 ≤ value ∧ value ≤ limit then .ok value.toNat else .error (.outOfRange value expected)
  | found => .error (.wrongType found expected)

end Shape

namespace Address

/-- What a reader of addresses expects. -/
def expectation : String :=
  "either a string representation of a link address or 6-element byte array"

/-- The value an address is stored as where values are readable. -/
def shape (address : Address) : Shape := .text address.text

/-- Read an address where values are readable. -/
def ofShape : Shape → Except Mismatch Address
  | .text value => (parse value).mapError .address
  | found => .error (.wrongType found expectation)

/-- The bytes an address is stored as where values are compact. -/
def compact (address : Address) : List UInt8 := address.octets

/-- Read an address where values are compact. -/
def ofCompact (bytes : List UInt8) : Except Mismatch Address :=
  (ofBytes bytes).mapError fun error => .wrongLength error.actual expectation

end Address

namespace ProtocolType

/-- What a reader of protocol types expects. -/
def expectation : String := "a 16-bit protocol type"

/-- The value a protocol type is stored as. -/
def shape (type : ProtocolType) : Shape := .integer type.value.toNat

/-- Read a protocol type from a number or from a text. -/
def ofShape : Shape → Except Mismatch ProtocolType
  | .integer value =>
    if 0 ≤ value ∧ value ≤ 65535 then .ok ⟨UInt16.ofNat value.toNat⟩
    else .error (.outOfRange value expectation)
  | .text value => (parse value).mapError .protocolType
  | found => .error (.wrongType found expectation)

end ProtocolType

end PcmLink
