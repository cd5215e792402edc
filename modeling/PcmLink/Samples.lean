import PcmLink.Octets.Endian

/-!
# Samples

Audio is a list of signed sixteen-bit samples. A byte stream holds two bytes a sample in the order
of the wire; a byte left over at the end is no sample. A host reads a pair in its own order and
exchanges the bytes if the wire has the other one, so the samples do not depend on the host.
-/

namespace PcmLink.Samples

/-- The order of the bytes of a sample on the wire. -/
def wireOrder : ByteOrder := .big

/-- The word of a pair of bytes, read by a host. -/
def readPair (wire host : ByteOrder) (first second : UInt8) : UInt16 :=
  let word := Octets.decode16 host first second
  if wire = host then word else Octets.swap16 word

/-- The samples of a stream whose bytes are in the order of the wire, read by a host. -/
def ofStream (wire host : ByteOrder) : List UInt8 → List Int16
  | first :: second :: rest => (readPair wire host first second).toInt16 :: ofStream wire host rest
  | _ => []

/-- The samples of a stream off the wire. -/
def ofWire (stream : List UInt8) : List Int16 := ofStream wireOrder .little stream

/-- The bytes of samples in an order. -/
def encode (order : ByteOrder) (samples : List Int16) : List UInt8 :=
  samples.flatMap fun sample => Octets.encode16 order sample.toUInt16

/-- Samples as text. -/
def summary (samples : List Int16) : String :=
  let shown := samples.map fun sample => toString sample.toInt
  "SampleBuffer([" ++ ", ".intercalate shown ++ "])"

/-- Every host reads a pair as the wire means it. -/
theorem readPair_eq (wire host : ByteOrder) (first second : UInt8) :
    readPair wire host first second = Octets.decode16 wire first second := by
  cases wire <;> cases host <;> simp [readPair, Octets.decode16, Octets.swap16]

end PcmLink.Samples
