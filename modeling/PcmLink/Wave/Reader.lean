import PcmLink.Error
import PcmLink.Octets.Source
import PcmLink.Samples
import PcmLink.Wave.Format

/-!
# Reading WAVE data

After the signature a file is a sequence of chunks, each with a name and a length. A format chunk
must describe sixteen-bit linear samples and the last one before the samples counts; chunks of any
other name are passed over. The data chunk ends the reading, so nothing after it matters. A length
is trusted only as far as there are bytes: data that ends early is a defect of the data, and only
a source that fails makes the reading fail as a failure of the system.
-/

namespace PcmLink.Wave

/-- Read bytes that have to be there; `part` names what they are. -/
def require (part : String) (want : Nat) (source : Source) : Except Error (List UInt8 × Source) :=
  match source.readUpTo want with
  | .error failure => .error (.io failure)
  | .ok (bytes, rest) =>
    if bytes.length < want then .error (.invalidWave (.truncated part)) else .ok (bytes, rest)

/-- Bytes that were required are there, in front of the rest. -/
theorem bytes_of_require {part : String} {want : Nat} {source rest : Source}
    {bytes : List UInt8} (read : require part want source = .ok (bytes, rest)) :
    bytes.length = want ∧ source.bytes = bytes ++ rest.bytes := by
  unfold require at read
  split at read
  · contradiction
  · rename_i taken left found
    split at read
    · contradiction
    · obtain ⟨rfl, rfl⟩ := Prod.mk.inj (Except.ok.inj read)
      refine ⟨?_, Source.bytes_of_readUpTo found⟩
      have bound : taken.length ≤ want := by
        have limited := Source.length_takeUpTo_le want source.pieces
        unfold Source.readUpTo at found
        simp only at found
        split at found
        · split at found
          · contradiction
          · obtain ⟨rfl, _⟩ := Prod.mk.inj (Except.ok.inj found)
            exact limited
        · obtain ⟨rfl, _⟩ := Prod.mk.inj (Except.ok.inj found)
          exact limited
      omega

/-- A number of `width` bytes inside a chunk, least significant byte first. -/
def field (bytes : List UInt8) (offset width : Nat) : Nat :=
  Octets.decodeNat ((bytes.drop offset).take width)

/-- The length of a chunk with the byte that pads an odd one. -/
def padded (length : Nat) : Nat := length + length % 2

/-- The format that the body of a format chunk describes. -/
def formatOfBody (body : List UInt8) : Except WaveDefect Format :=
  let tag := field body 0 2
  let bits := field body 14 2
  if tag = linearFormat.toNat ∧ bits = 16 then
    .ok {
      channels := UInt16.ofNat (field body 2 2)
      sampleRate := UInt32.ofNat (field body 4 4)
      bitsPerSample := UInt16.ofNat bits }
  else .error (.unsupported tag bits)

/-- Read the chunks up to the samples; `format` is the last format read. -/
def readChunks (format : Option Format) (source : Source) :
    Except Error (Format × List Int16) :=
  match _ : require "chunk header" 8 source with
  | .error error => .error error
  | .ok (head, rest) =>
    let name := head.take 4
    let length := field head 4 4
    if name = formatTag then
      if length < formatLength.toNat then .error (.invalidWave (.shortFormat length))
      else match _ : require "fmt chunk" (padded length) rest with
        | .error error => .error error
        | .ok (bytes, after) =>
          match formatOfBody bytes with
          | .error defect => .error (.invalidWave defect)
          | .ok found => readChunks (some found) after
    else if name = dataTag then
      match format with
      | none => .error (.invalidWave .dataBeforeFormat)
      | some found =>
        match require "sample data" length rest with
        | .error error => .error error
        | .ok (bytes, _) => .ok (found, Samples.ofStream .little .little bytes)
    else match _ : require "chunk" (padded length) rest with
      | .error error => .error error
      | .ok (_, after) => readChunks format after
termination_by source.bytes.length
decreasing_by
  all_goals
    obtain ⟨long, bytes⟩ := bytes_of_require ‹require "chunk header" 8 source = _›
    obtain ⟨_, left⟩ := bytes_of_require ‹require _ (padded length) rest = _›
    simp only [bytes, left, List.length_append]
    omega

/-- Read the format and the samples of WAVE data. -/
def read (source : Source) : Except Error (Format × List Int16) :=
  match require "RIFF header" 12 source with
  | .error error => .error error
  | .ok (head, rest) =>
    if head.take 4 = riffTag ∧ head.drop 8 = waveTag then readChunks none rest
    else .error (.invalidWave .missingSignature)

end PcmLink.Wave
