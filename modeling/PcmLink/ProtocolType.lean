import PcmLink.Address
import PcmLink.Octets.Endian

/-!
# Protocol types

The sixteen-bit number after the addresses of a header says what a frame carries. On the wire its
high byte comes first. Its text is four hexadecimal digits after `0x`; reading also takes plain
decimal.
-/

namespace PcmLink

/-- The protocol type of a frame. -/
structure ProtocolType where
  /-- The number. -/
  value : UInt16
  deriving DecidableEq, Repr, Inhabited

namespace ProtocolType

/-- The width of a protocol type in bytes. -/
def byteWidth : Nat := 2

/-- The type that audio frames carry on the bench. -/
def bench : ProtocolType := ⟨0x0040⟩

/-- The two bytes of a protocol type on the wire. -/
def bytes (type : ProtocolType) : List UInt8 := Octets.encode16 .big type.value

/-- The protocol type of exactly two bytes. -/
def ofBytes (bytes : List UInt8) : Except WidthError ProtocolType :=
  match bytes with
  | [first, second] => .ok ⟨Octets.decode16 .big first second⟩
  | _ => .error { expected := byteWidth, actual := bytes.length }

/-- The protocol type in the first two bytes; a byte that is missing counts as zero. -/
def ofFront (bytes : List UInt8) : ProtocolType :=
  ⟨Octets.decode16 .big (bytes.headD 0) (bytes.tail.headD 0)⟩

/-- The text of a protocol type. -/
def text (type : ProtocolType) : String := "0x" ++ Hex.text type.bytes

/-- A text is no protocol type, because its digits are no sixteen-bit number. -/
structure ParseError where
  /-- What is wrong with the digits. -/
  cause : Text.NumeralError
  deriving DecidableEq, Repr

/-- The wording of a refusal. -/
def ParseError.message (error : ParseError) : String :=
  s!"Invalid protocol type: {error.cause.message}"

/-- The digits of a text and their radix: hexadecimal after `0x` or `0X`, else decimal. -/
def digits : List Char → Nat × List Char
  | '0' :: 'x' :: rest => (16, rest)
  | '0' :: 'X' :: rest => (16, rest)
  | text => (10, text)

/-- The protocol type that a text writes. -/
def parse (text : String) : Except ParseError ProtocolType :=
  let (radix, digits) := digits text.toList
  match Text.readNumeral radix 65535 digits with
  | .ok value => .ok ⟨UInt16.ofNat value⟩
  | .error cause => .error ⟨cause⟩

end ProtocolType

end PcmLink
