import PcmLink.Octets.Endian

/-!
# Formats of WAVE data

The parameters of a WAVE file, the derived fields of its header, and the byte strings that mark
the parts of a file. A derived field that its header word cannot hold does not exist.
-/

namespace PcmLink.Wave

/-- The parameters of WAVE data. -/
structure Format where
  /-- How many channels are interleaved. -/
  channels : UInt16
  /-- Sample frames a second. -/
  sampleRate : UInt32
  /-- The width of a sample. -/
  bitsPerSample : UInt16
  deriving DecidableEq, Repr

namespace Format

/-- One channel of sixteen-bit samples. -/
def mono (sampleRate : UInt32) : Format := { channels := 1, sampleRate, bitsPerSample := 16 }

/-- The bytes of one sample frame. -/
def blockAlign? (format : Format) : Option UInt16 :=
  let bytes := format.channels.toNat * (format.bitsPerSample.toNat / 8)
  if bytes < UInt16.size then some (UInt16.ofNat bytes) else none

/-- The bytes of one second. -/
def byteRate? (format : Format) : Option UInt32 := do
  let block ← format.blockAlign?
  let bytes := format.sampleRate.toNat * block.toNat
  if bytes < UInt32.size then some (UInt32.ofNat bytes) else none

end Format

/-- The bytes `RIFF`. -/
def riffTag : List UInt8 := [0x52, 0x49, 0x46, 0x46]

/-- The bytes `WAVE`. -/
def waveTag : List UInt8 := [0x57, 0x41, 0x56, 0x45]

/-- The bytes `fmt` and a space. -/
def formatTag : List UInt8 := [0x66, 0x6d, 0x74, 0x20]

/-- The bytes `data`. -/
def dataTag : List UInt8 := [0x64, 0x61, 0x74, 0x61]

/-- The number of linear samples. -/
def linearFormat : UInt16 := 1

/-- The length of a plain format chunk. -/
def formatLength : UInt32 := 16

/-- The bytes before the samples of a file. -/
def headerLength : UInt32 := 44

end PcmLink.Wave
