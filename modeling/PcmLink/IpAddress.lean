import PcmLink.Octets.Endian
import PcmLink.Text.Numeral
import PcmLink.Text.Split

/-!
# Internet addresses

Addresses of four bytes are written as four decimal numbers. Addresses of sixteen bytes are written
as eight groups of hexadecimal digits without leading zeros; the first of the longest runs of two or
more zero groups is left out between two colons, and an address that stands for one of four bytes
shows that one at its end. Reading takes any run left out and four decimal numbers in place of the
last two groups. A network is an address with the length of its prefix; for four bytes a mask may
stand in place of the length.
-/

namespace PcmLink

/-- An internet address. -/
inductive IpAddress where
  /-- An address of four bytes. -/
  | v4 (octets : Vector UInt8 4)
  /-- An address of eight groups of two bytes. -/
  | v6 (groups : Vector UInt16 8)
  deriving DecidableEq, Repr

namespace IpAddress

/-- The address is one of four bytes. -/
def isV4 : IpAddress → Bool
  | .v4 _ => true
  | .v6 _ => false

/-- The length of an address in bits. -/
def bits : IpAddress → Nat
  | .v4 _ => 32
  | .v6 _ => 128

/-- The text of four bytes. -/
def octetsText (octets : List UInt8) : String :=
  ".".intercalate (octets.map fun octet => toString octet.toNat)

/-- The text of one group. -/
def groupText (group : UInt16) : String := String.ofList (Nat.toDigits 16 group.toNat)

/-- The text of groups. -/
def groupsText (groups : List UInt16) : String := ":".intercalate (groups.map groupText)

/-- The start and the length of the first of the longest runs of zero groups. `at_` counts the
groups passed, `run` those of the run that ends there. -/
def longestRun (at_ run start length : Nat) : List UInt16 → Nat × Nat
  | [] => (start, length)
  | group :: rest =>
    if group = 0 then
      if length < run + 1 then longestRun (at_ + 1) (run + 1) (at_ - run) (run + 1) rest
      else longestRun (at_ + 1) (run + 1) start length rest
    else longestRun (at_ + 1) 0 start length rest

/-- The text of eight groups, the longest run of zeros left out. -/
def compressed (groups : List UInt16) : String :=
  let (start, length) := longestRun 0 0 0 0 groups
  if 1 < length then
    groupsText (groups.take start) ++ "::" ++ groupsText (groups.drop (start + length))
  else groupsText groups

/-- The text of an address. -/
def text : IpAddress → String
  | .v4 octets => octetsText octets.toList
  | .v6 groups =>
    match groups.toList with
    | [0, 0, 0, 0, 0, 0xffff, high, low] =>
      "::ffff:" ++ octetsText (Octets.encode16 .big high ++ Octets.encode16 .big low)
    | groups => compressed groups

/-- The address of as many bytes as one has. -/
def ofBytes? (bytes : List UInt8) : Option IpAddress :=
  match bytes with
  | [a, b, c, d] => some (.v4 #v[a, b, c, d])
  | _ =>
    let groups := pairs bytes
    if eight : groups.toArray.size = 8 ∧ bytes.length = 16 then
      some (.v6 ⟨groups.toArray, eight.1⟩)
    else none
where
  /-- Two bytes each as a group. -/
  pairs : List UInt8 → List UInt16
    | high :: low :: rest => Octets.word16 high low :: pairs rest
    | _ => []

/-- The byte that a decimal number writes, without leading zeros. -/
def octet? (part : List Char) : Option UInt8 :=
  if part.length ≤ 3 ∧ (part.head? ≠ some '0' ∨ part = ['0']) ∧ part.all Char.isDigit then
    match Text.readNumeral 10 255 part with
    | .ok value => some (UInt8.ofNat value)
    | .error _ => none
  else none

/-- The bytes that four decimal numbers write. -/
def octets? (text : List Char) : Option (List UInt8) := do
  let octets ← (Text.split (· == '.') text).mapM octet?
  if octets.length = 4 then some octets else none

/-- The group that hexadecimal digits write. -/
def group? (part : List Char) : Option UInt16 :=
  if part.length ≤ 4 ∧ part.all fun c => (Text.digit? 16 c).isSome then
    match Text.readNumeral 16 65535 part with
    | .ok value => some (UInt16.ofNat value)
    | .error _ => none
  else none

/-- The bytes of groups between colons, the last of which may be four decimal numbers. -/
def groupBytes? : List (List Char) → Option (List UInt8)
  | [] => some []
  | [last] =>
    match group? last with
    | some group => some (Octets.encode16 .big group)
    | none => octets? last
  | part :: rest => do
    let group ← group? part
    let bytes ← groupBytes? rest
    some (Octets.encode16 .big group ++ bytes)

/-- The bytes of a text of groups, which may be empty. -/
def side? (text : List Char) : Option (List UInt8) :=
  if text.isEmpty then some [] else groupBytes? (Text.split (· == ':') text)

/-- The texts before and after the first two colons in a row. -/
def gap? : List Char → Option (List Char × List Char)
  | ':' :: ':' :: rest => some ([], rest)
  | c :: rest => (gap? rest).map fun (before, after) => (c :: before, after)
  | [] => none

/-- The sixteen bytes of an address whose groups a text writes. -/
def v6Bytes? (text : List Char) : Option (List UInt8) :=
  match gap? text with
  | none => side? text
  | some (before, after) => do
    let front ← side? before
    let back ← side? after
    if before.contains '.' ∨ 14 < front.length + back.length then none
    else some (front ++ List.replicate (16 - (front.length + back.length)) 0 ++ back)

/-- The address that a text writes. -/
def parse? (text : List Char) : Option IpAddress :=
  match octets? text with
  | some octets => ofBytes? octets
  | none => do
    let bytes ← v6Bytes? text
    if bytes.length = 16 then ofBytes? bytes else none

end IpAddress

/-- A network: an address and how many of its bits are the prefix. -/
structure IpNetwork where
  /-- The address. -/
  address : IpAddress
  /-- The length of the prefix in bits. -/
  prefixBits : Nat
  deriving DecidableEq, Repr

namespace IpNetwork

/-- The text of a network. -/
def text (network : IpNetwork) : String := s!"{network.address.text}/{network.prefixBits}"

/-- The length of the prefix that a mask of four bytes keeps: ones up to it and zeros after it. -/
def maskBits? (mask : List UInt8) : Option Nat :=
  let value := mask.foldl (fun value octet => value * 256 + octet.toNat) 0
  (List.range 33).find? fun bits => value == UInt32.size - (UInt32.size >>> bits)

/-- The length of the prefix that a text writes behind an address. -/
def prefixBits? (address : IpAddress) (text : List Char) : Option Nat :=
  match if address.isV4 then IpAddress.octets? text else none with
  | some mask => maskBits? mask
  | none => (Text.readNumeral 10 address.bits text).toOption

/-- The network that a text writes; without a prefix it is a single address. -/
def parse? (text : String) : Option IpNetwork :=
  match Text.split (· == '/') text.toList with
  | [address] => do
    let address ← IpAddress.parse? address
    some { address, prefixBits := address.bits }
  | [address, kept] => do
    let address ← IpAddress.parse? address
    let prefixBits ← prefixBits? address kept
    some { address, prefixBits }
  | _ => none

end IpNetwork

end PcmLink
