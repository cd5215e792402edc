import PcmLink.Error
import PcmLink.Octets.Sink
import PcmLink.Samples
import PcmLink.Wave.Format

/-!
# Writing WAVE data

A file of mono samples is a header of 44 bytes and then the samples, least significant byte first.
Two things are checked before anything is written: that the header can count the bytes of the
samples and of the whole file, and that it can hold the byte rate. The sizes in the header are
machine words.
-/

namespace PcmLink.Wave

/-- The length of the samples in bytes, if the header can count it and the file around it. -/
def dataLength? (samples : List Int16) : Option UInt32 :=
  let bytes := 2 * samples.length
  if bytes + (headerLength - 8).toNat < UInt32.size then some (UInt32.ofNat bytes) else none

/-- The size of the file less its first eight bytes, as the header states it. -/
def riffLength (dataLength : UInt32) : UInt32 := dataLength + headerLength - 8

/-- The header of a file. -/
def header (format : Format) (blockAlign : UInt16) (byteRate dataLength : UInt32) : List UInt8 :=
  riffTag ++ Octets.encode32 (riffLength dataLength) ++ waveTag ++
    formatTag ++ Octets.encode32 formatLength ++
    Octets.encode16 .little linearFormat ++ Octets.encode16 .little format.channels ++
    Octets.encode32 format.sampleRate ++ Octets.encode32 byteRate ++
    Octets.encode16 .little blockAlign ++ Octets.encode16 .little format.bitsPerSample ++
    dataTag ++ Octets.encode32 dataLength

/-- The header of a file of mono samples. -/
def headerOf (samples : List Int16) (sampleRate : UInt32) : Except WaveDefect (List UInt8) :=
  let format := Format.mono sampleRate
  match dataLength? samples with
  | none => .error (.tooManySamples samples.length)
  | some dataLength =>
    match format.blockAlign?, format.byteRate? with
    | some blockAlign, some byteRate => .ok (header format blockAlign byteRate dataLength)
    | _, _ => .error (.rateTooHigh sampleRate.toNat)

/-- The samples of a file as bytes. -/
def body (samples : List Int16) : List UInt8 := Samples.encode .little samples

/-- All bytes of a file of mono samples. -/
def encode (samples : List Int16) (sampleRate : UInt32) : Except WaveDefect (List UInt8) :=
  (headerOf samples sampleRate).map (· ++ body samples)

/-- Write a file of mono samples: its header in one write and its samples in another. -/
def write (sink : Sink) (samples : List Int16) (sampleRate : UInt32) : Except Error Unit × Sink :=
  match headerOf samples sampleRate with
  | .error defect => (.error (.invalidWave defect), sink)
  | .ok header =>
    match sink.write header with
    | (.error failure, sink) => (.error (.io failure), sink)
    | (.ok (), sink) =>
      match sink.write (body samples) with
      | (.error failure, sink) => (.error (.io failure), sink)
      | (.ok (), sink) => (.ok (), sink)

end PcmLink.Wave
