import PcmLink.Octets.Hex
import PcmLink.Text.Split

/-!
# Link addresses

A hardware address is six octets. Its text has six components of two lowercase hexadecimal digits
between colons; reading also takes dashes, either case, and components of a single digit.
Components are read from left to right and the first thing wrong is reported, so components after
the sixth are never looked at.
-/

namespace PcmLink

/-- A header field does not have the width its type requires. -/
structure WidthError where
  /-- The width of the field in bytes. -/
  expected : Nat
  /-- How many bytes there were. -/
  actual : Nat
  deriving DecidableEq, Repr

/-- The wording of a wrong width. -/
def WidthError.message (error : WidthError) : String :=
  s!"expected a field of {error.expected} bytes, got {error.actual}"

/-- The hardware address of a link endpoint. -/
structure Address where
  /-- The octets in the order they are sent. -/
  octets : List UInt8
  /-- There are six of them. -/
  width : octets.length = 6 := by rfl
  deriving DecidableEq

namespace Address

/-- The width of an address in bytes. -/
def byteWidth : Nat := 6

/-- An address from its octets. -/
def ofOctets (a b c d e f : UInt8) : Address := { octets := [a, b, c, d, e, f] }

/-- The address of no endpoint. -/
def zero : Address := ofOctets 0 0 0 0 0 0

/-- The address of every endpoint on the link. -/
def broadcast : Address := ofOctets 0xff 0xff 0xff 0xff 0xff 0xff

instance : Inhabited Address := ⟨zero⟩

/-- The first octet, which holds the flag bits. -/
def flags (address : Address) : UInt8 := address.octets.headD 0

/-- All octets are zero. -/
def isZero (address : Address) : Bool := address == zero

/-- The address was assigned locally. -/
def isLocal (address : Address) : Bool := address.flags &&& 0x02 == 0x02

/-- The address names a group of endpoints. -/
def isMulticast (address : Address) : Bool := address.flags &&& 0x01 == 0x01

/-- All octets are `0xff`. -/
def isBroadcast (address : Address) : Bool := address == broadcast

/-- The order of addresses, octet by octet. -/
def compare (left right : Address) : Ordering :=
  compareOfLessAndEq left.octets right.octets

/-- The address of exactly six bytes. -/
def ofBytes (bytes : List UInt8) : Except WidthError Address :=
  if width : bytes.length = 6 then .ok { octets := bytes, width }
  else .error { expected := byteWidth, actual := bytes.length }

/-- The address in the first six bytes; a byte that is missing counts as zero. -/
def ofFront (bytes : List UInt8) : Address :=
  { octets := (bytes ++ List.replicate 6 0).take 6, width := by simp }

/-- The text of an address. -/
def text (address : Address) : String :=
  ":".intercalate (address.octets.map fun octet => Hex.text [octet])

/-- Why a text is no address. -/
inductive ParseError where
  /-- There are more than six components. -/
  | tooManyComponents
  /-- There are fewer than six components. -/
  | tooFewComponents
  /-- A component is not one octet in hexadecimal. -/
  | invalidComponent
  deriving DecidableEq, Repr

/-- The wording of a refusal. -/
def ParseError.message : ParseError → String
  | .tooManyComponents => "Too many components in a link address string"
  | .tooFewComponents => "Too few components in a link address string"
  | .invalidComponent => "Invalid component in a link address string"

/-- Colons and dashes stand between components. -/
def isSeparator (c : Char) : Bool := c == ':' || c == '-'

/-- The octet that a component writes: a hexadecimal numeral of one or two characters. -/
def component? (part : List Char) : Option UInt8 :=
  if part.length ≤ 2 then
    match Text.readNumeral 16 255 part with
    | .ok value => some (UInt8.ofNat value)
    | .error _ => none
  else none

/-- The octets of the components when `room` more are wanted. -/
def readComponents : Nat → List (List Char) → Except ParseError (List UInt8)
  | 0, [] => .ok []
  | 0, _ :: _ => .error .tooManyComponents
  | _ + 1, [] => .error .tooFewComponents
  | room + 1, part :: parts =>
    match component? part with
    | none => .error .invalidComponent
    | some octet => (readComponents room parts).map (octet :: ·)

/-- As many octets are read as were wanted. -/
theorem length_readComponents {room : Nat} {parts : List (List Char)} {octets : List UInt8}
    (read : readComponents room parts = .ok octets) : octets.length = room := by
  induction room generalizing parts octets with
  | zero =>
    cases parts <;> simp [readComponents] at read
    simp [← read]
  | succ room ih =>
    cases parts with
    | nil => simp [readComponents] at read
    | cons part parts =>
      simp only [readComponents] at read
      split at read
      · contradiction
      · cases rest : readComponents room parts with
        | error => simp [rest, Except.map] at read
        | ok tail =>
          simp only [rest, Except.map, Except.ok.injEq] at read
          simp [← read, ih rest]

/-- The address that a text writes. -/
def parse (text : String) : Except ParseError Address :=
  match read : readComponents 6 (Text.split isSeparator text.toList) with
  | .error error => .error error
  | .ok octets => .ok { octets, width := length_readComponents read }

end Address

end PcmLink
