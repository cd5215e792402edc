import PcmLink.Proofs.Octets.Sink
import PcmLink.Proofs.Samples
import PcmLink.Wave.Writer

/-!
# Written WAVE data

When mono samples have WAVE data at all, what that data is, and when a sink takes it. The header
and the samples are written one after the other, and a sink takes both exactly if they fit
together.
-/

namespace PcmLink

namespace Wave

/-- The block of mono samples is that of one sample. -/
theorem blockAlign?_mono (sampleRate : UInt32) : (Format.mono sampleRate).blockAlign? = some 2 := by
  have small : 2 < UInt16.size := by decide
  simp [Format.blockAlign?, Format.mono, small]

/-- Mono samples have a byte rate if a header word holds twice their rate. -/
theorem byteRate?_mono (sampleRate : UInt32) :
    (Format.mono sampleRate).byteRate? =
      if 2 * sampleRate.toNat < UInt32.size then some (UInt32.ofNat (2 * sampleRate.toNat))
      else none := by
  have double : (Format.mono sampleRate).sampleRate.toNat * (2 : UInt16).toNat =
      2 * sampleRate.toNat := Nat.mul_comm ..
  simp only [Format.byteRate?, blockAlign?_mono, bind, Option.bind, double]

/-- The header words hold the sizes of the samples and of the file, and the byte rate. -/
structure Encodable (samples : List Int16) (sampleRate : UInt32) : Prop where
  /-- The size of the file less its first eight bytes is a word. -/
  size : 2 * samples.length + 36 < UInt32.size
  /-- The byte rate is a word. -/
  rate : 2 * sampleRate.toNat < UInt32.size

/-- The data of samples that can be encoded. -/
def data (samples : List Int16) (sampleRate : UInt32) : List UInt8 :=
  header (.mono sampleRate) 2 (UInt32.ofNat (2 * sampleRate.toNat))
    (UInt32.ofNat (2 * samples.length)) ++ body samples

/-- Samples have data exactly if the header words hold their sizes. -/
theorem encode_eq_ok_iff {samples : List Int16} {sampleRate : UInt32} {bytes : List UInt8} :
    encode samples sampleRate = .ok bytes ↔
      Encodable samples sampleRate ∧ bytes = data samples sampleRate := by
  have least : (headerLength - 8).toNat = 36 := rfl
  simp only [encode, headerOf, dataLength?, least, blockAlign?_mono, byteRate?_mono]
  by_cases size : 2 * samples.length + 36 < UInt32.size
  · by_cases rate : 2 * sampleRate.toNat < UInt32.size
    · rw [if_pos size, if_pos rate]
      constructor
      · intro same
        exact ⟨⟨size, rate⟩, (Except.ok.inj same).symm⟩
      · rintro ⟨_, rfl⟩
        rfl
    · rw [if_pos size, if_neg rate]
      constructor
      · intro same
        contradiction
      · rintro ⟨encodable, _⟩
        exact absurd encodable.rate rate
  · rw [if_neg size]
    constructor
    · intro same
      contradiction
    · rintro ⟨encodable, _⟩
      exact absurd encodable.size size

/-- A header is forty-four bytes. -/
theorem length_header (format : Format) (blockAlign : UInt16) (byteRate dataLength : UInt32) :
    (header format blockAlign byteRate dataLength).length = 44 := by
  simp [header, riffTag, waveTag, formatTag, dataTag, Octets.encode32, Octets.encode16]

/-- The data of samples is a header and two bytes for each. -/
theorem length_data (samples : List Int16) (sampleRate : UInt32) :
    (data samples sampleRate).length = 44 + 2 * samples.length := by
  rw [data, List.length_append, length_header, body, Samples.length_encode]

/-- Samples that can be encoded have the header at the front of their data. -/
theorem exists_headerOf {samples : List Int16} {sampleRate : UInt32}
    (encodable : Encodable samples sampleRate) :
    ∃ header, headerOf samples sampleRate = .ok header ∧ header.length = 44 ∧
      data samples sampleRate = header ++ body samples := by
  have encoded := encode_eq_ok_iff.mpr ⟨encodable, rfl⟩
  cases built : headerOf samples sampleRate with
  | error defect =>
    rw [encode, built] at encoded
    contradiction
  | ok header =>
    rw [encode, built] at encoded
    have parts : header ++ body samples = data samples sampleRate := Except.ok.inj encoded
    refine ⟨header, rfl, ?_, parts.symm⟩
    have whole := congrArg List.length parts
    rw [length_data, List.length_append, body, Samples.length_encode] at whole
    omega

/-- A sink takes samples exactly if they have data and it fits. -/
theorem write_eq_ok_iff {sink after : Sink} {samples : List Int16} {sampleRate : UInt32} :
    write sink samples sampleRate = (.ok (), after) ↔
      ∃ bytes, encode samples sampleRate = .ok bytes ∧ sink.Fits bytes.length ∧
        after = { sink with written := sink.written ++ bytes } := by
  unfold write encode
  cases headerOf samples sampleRate with
  | error defect => simp [Except.map]
  | ok header =>
    constructor
    · intro written
      dsimp only at written
      split at written
      · cases (Prod.mk.inj written).1
      · rename_i middle taken
        obtain ⟨fits, rfl⟩ := Sink.write_eq_ok_iff.mp taken
        split at written
        · cases (Prod.mk.inj written).1
        · rename_i last rest
          obtain ⟨_, rfl⟩ := Prod.mk.inj written
          obtain ⟨back, rfl⟩ := Sink.write_eq_ok_iff.mp rest
          refine ⟨header ++ body samples, rfl, Sink.fits_append.mpr ⟨fits, back⟩, ?_⟩
          rw [← List.append_assoc]
    · rintro ⟨bytes, same, fits, rfl⟩
      obtain rfl := Except.ok.inj same
      obtain ⟨front, back⟩ := Sink.fits_append.mp fits
      dsimp only
      rw [Sink.write_eq_ok_iff.mpr ⟨front, rfl⟩]
      dsimp only
      rw [Sink.write_eq_ok_iff.mpr ⟨back, rfl⟩, ← List.append_assoc]

/-- A sink without a limit takes the data of samples that can be encoded. -/
theorem write_of_encodable {samples : List Int16} {sampleRate : UInt32}
    (encodable : Encodable samples sampleRate) :
    write {} samples sampleRate = (.ok (), { written := data samples sampleRate }) := by
  have encoded : encode samples sampleRate = .ok (data samples sampleRate) :=
    encode_eq_ok_iff.mpr ⟨encodable, rfl⟩
  apply write_eq_ok_iff.mpr
  refine ⟨data samples sampleRate, encoded, Sink.fits_of_unlimited rfl _, ?_⟩
  rw [List.nil_append]

end Wave

end PcmLink
