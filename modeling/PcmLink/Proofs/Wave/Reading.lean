import PcmLink.Proofs.Wave.Writing
import PcmLink.Wave.Reader

/-!
# WAVE data read back

Each part of the data of a file is required in turn, and what is required of bytes at hand is their
front. So the reader finds the chunks that the writer wrote, and with them the format and the
samples.
-/

namespace PcmLink

/-- The word of two bytes, least significant first, as a number. -/
theorem Octets.decodeNat_encode16 (word : UInt16) :
    decodeNat (encode16 .little word) = word.toNat := by
  have bound := word.toNat_lt
  simp only [encode16, low16, high16, decodeNat, UInt8.toNat_ofNat']
  omega

/-- Bytes at hand are read from the front. -/
theorem Source.readUpTo_ofBytes (front rest : List UInt8) :
    (ofBytes (front ++ rest)).readUpTo front.length = .ok (front, ofBytes rest) := by
  cases rest with
  | nil =>
    cases front with
    | nil => rfl
    | cons byte front => simp [readUpTo, ofBytes, takeUpTo]
  | cons next rest =>
    have some_byte : front ++ next :: rest ≠ [] := by simp
    have longer : front.length < (front ++ next :: rest).length := by simp
    simp only [readUpTo, ofBytes, if_neg some_byte, takeUpTo, if_pos longer, List.take_left,
      List.drop_left]
    rfl

namespace Wave

/-- Bytes at hand are required from the front. -/
theorem require_ofBytes (part : String) {want : Nat} {front : List UInt8}
    (width : front.length = want) (rest : List UInt8) :
    require part want (.ofBytes (front ++ rest)) = .ok (front, .ofBytes rest) := by
  subst width
  rw [require, Source.readUpTo_ofBytes]
  simp

/-- A field between bytes. -/
theorem field_append {front value : List UInt8} {offset width : Nat}
    (before : front.length = offset) (inside : value.length = width) (rest : List UInt8) :
    field (front ++ value ++ rest) offset width = Octets.decodeNat value := by
  subst before inside
  rw [field, List.append_assoc, List.drop_left, List.take_left]

/-- The name and the length of a chunk. -/
def chunkHead (name : List UInt8) (length : UInt32) : List UInt8 := name ++ Octets.encode32 length

/-- The length of a chunk is found behind its name. -/
theorem field_chunkHead {name : List UInt8} (four : name.length = 4) (length : UInt32) :
    field (chunkHead name length) 4 4 = length.toNat := by
  have found := field_append four (rfl : (Octets.encode32 length).length = 4) []
  rwa [List.append_nil, Octets.decodeNat_encode32] at found

/-- A format chunk of enough bytes is read as its format. -/
theorem readChunks_format (format : Option Format) {found : Format} {length : UInt32}
    {body : List UInt8} (enough : formatLength.toNat ≤ length.toNat)
    (width : body.length = padded length.toNat) (described : formatOfBody body = .ok found)
    (rest : List UInt8) :
    readChunks format (.ofBytes (chunkHead formatTag length ++ (body ++ rest))) =
      readChunks (some found) (.ofBytes rest) := by
  have head := require_ofBytes "chunk header" (rfl : (chunkHead formatTag length).length = 8)
    (body ++ rest)
  have chunk := require_ofBytes "fmt chunk" width rest
  have name : (chunkHead formatTag length).take 4 = formatTag := rfl
  have size : field (chunkHead formatTag length) 4 4 = length.toNat := field_chunkHead rfl length
  rw [readChunks]
  split
  · rename_i failed
    cases failed.symm.trans head
  · rename_i first after required
    obtain ⟨rfl, rfl⟩ := Prod.mk.inj (Except.ok.inj (head.symm.trans required))
    simp only [name, size, if_pos, if_neg (Nat.not_lt.mpr enough)]
    split
    · rename_i failed
      rw [size] at failed
      cases failed.symm.trans chunk
    · rename_i bytes left required
      rw [size] at required
      obtain ⟨rfl, rfl⟩ := Prod.mk.inj (Except.ok.inj (chunk.symm.trans required))
      simp only [described]

/-- Behind a format the bytes of a data chunk are the samples. -/
theorem readChunks_data (found : Format) {length : UInt32} {bytes : List UInt8}
    (width : bytes.length = length.toNat) (rest : List UInt8) :
    readChunks (some found) (.ofBytes (chunkHead dataTag length ++ (bytes ++ rest))) =
      .ok (found, Samples.ofStream .little .little bytes) := by
  have head := require_ofBytes "chunk header" (rfl : (chunkHead dataTag length).length = 8)
    (bytes ++ rest)
  have chunk := require_ofBytes "sample data" width rest
  have name : (chunkHead dataTag length).take 4 = dataTag := rfl
  have other : dataTag ≠ formatTag := by decide
  have size : field (chunkHead dataTag length) 4 4 = length.toNat := field_chunkHead rfl length
  rw [readChunks]
  split
  · rename_i failed
    cases failed.symm.trans head
  · rename_i first after required
    obtain ⟨rfl, rfl⟩ := Prod.mk.inj (Except.ok.inj (head.symm.trans required))
    simp only [name, size, if_neg other, if_pos, chunk]

/-- The body of the format chunk that is written. -/
def formatBody (format : Format) (blockAlign : UInt16) (byteRate : UInt32) : List UInt8 :=
  Octets.encode16 .little linearFormat ++ Octets.encode16 .little format.channels ++
    Octets.encode32 format.sampleRate ++ Octets.encode32 byteRate ++
    Octets.encode16 .little blockAlign ++ Octets.encode16 .little format.bitsPerSample

/-- The body of a written format chunk describes its format. -/
theorem formatOfBody_formatBody {format : Format} (sixteen : format.bitsPerSample = 16)
    (blockAlign : UInt16) (byteRate : UInt32) :
    formatOfBody (formatBody format blockAlign byteRate) = .ok format := by
  have tag : field (formatBody format blockAlign byteRate) 0 2 =
      Octets.decodeNat (Octets.encode16 .little linearFormat) := rfl
  have channels : field (formatBody format blockAlign byteRate) 2 2 =
      Octets.decodeNat (Octets.encode16 .little format.channels) := rfl
  have sampleRate : field (formatBody format blockAlign byteRate) 4 4 =
      Octets.decodeNat (Octets.encode32 format.sampleRate) := rfl
  have bits : field (formatBody format blockAlign byteRate) 14 2 =
      Octets.decodeNat (Octets.encode16 .little format.bitsPerSample) := rfl
  simp only [formatOfBody, tag, channels, sampleRate, bits, Octets.decodeNat_encode16,
    Octets.decodeNat_encode32]
  rw [sixteen, if_pos ⟨trivial, rfl⟩, UInt16.ofNat_toNat, UInt32.ofNat_toNat, UInt16.ofNat_toNat,
    ← sixteen]

/-- Reading the data of samples gives their format and the samples. -/
theorem read_data {samples : List Int16} {sampleRate : UInt32}
    (encodable : Encodable samples sampleRate) :
    read (.ofBytes (data samples sampleRate)) = .ok (.mono sampleRate, samples) := by
  let format := Format.mono sampleRate
  let byteRate := UInt32.ofNat (2 * sampleRate.toNat)
  let length := UInt32.ofNat (2 * samples.length)
  let signature := riffTag ++ Octets.encode32 (riffLength length) ++ waveTag
  have parts : data samples sampleRate = signature ++ (chunkHead formatTag formatLength ++
      (formatBody format 2 byteRate ++ (chunkHead dataTag length ++ (body samples ++ [])))) := by
    simp only [data, header, signature, chunkHead, formatBody, List.append_assoc,
      List.append_nil, format, byteRate, length]
  have width : (body samples).length = length.toNat := by
    have size := encodable.size
    rw [body, Samples.length_encode, UInt32.toNat_ofNat_of_lt' (by omega)]
  have twelve : signature.length = 12 := rfl
  rw [parts, read, require_ofBytes "RIFF header" twelve]
  dsimp only
  rw [if_pos ⟨rfl, rfl⟩, readChunks_format none (by decide) rfl (formatOfBody_formatBody rfl _ _),
    readChunks_data format width, body, Samples.ofStream_encode]

end Wave

end PcmLink
