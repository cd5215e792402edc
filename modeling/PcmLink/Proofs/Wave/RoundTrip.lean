import PcmLink.Proofs.Wave.Reading

/-!
# WAVE data there and back

What a sink without a limit is handed for any samples: nothing but a defect if the header words
cannot hold the sizes, and otherwise a file whose header words are the sizes the file has, and
which is read as the samples. The size in the signature is a sum of machine words, so on the way it
may pass the end of a word, and its value is that of the bytes behind it all the same.
-/

namespace PcmLink.Wave

section Refusal

variable {samples : List Int16} {sampleRate : UInt32}

/-- Samples whose sizes do not fit the header words have no header. -/
theorem exists_headerOf_error (never : ¬ Encodable samples sampleRate) :
    ∃ defect, headerOf samples sampleRate = .error defect := by
  cases built : headerOf samples sampleRate with
  | error defect => exact ⟨defect, rfl⟩
  | ok header =>
    have whole : encode samples sampleRate = .ok (header ++ body samples) := by
      rw [encode, built]
      rfl
    exact absurd (encode_eq_ok_iff.mp whole).1 never

/-- Samples whose sizes do not fit the header words are refused before anything is written. -/
theorem write_of_not_encodable (sink : Sink) (never : ¬ Encodable samples sampleRate) :
    ∃ defect, write sink samples sampleRate = (.error (.invalidWave defect), sink) := by
  obtain ⟨defect, refused⟩ := exists_headerOf_error never
  refine ⟨defect, ?_⟩
  rw [write, refused]

end Refusal

section Words

variable {samples : List Int16} {sampleRate : UInt32}

/-- The word behind the signature is the length of the file less eight. -/
theorem field_data_riffLength (encodable : Encodable samples sampleRate) :
    field (data samples sampleRate) 4 4 = (data samples sampleRate).length - 8 := by
  have size := encodable.size
  have word : UInt32.size = 4294967296 := rfl
  let length := UInt32.ofNat (2 * samples.length)
  have counted : length.toNat = 2 * samples.length := UInt32.toNat_ofNat_of_lt' (by omega)
  have sum : (riffLength length).toNat = 2 * samples.length + 36 := by
    have header : headerLength.toNat = 44 := rfl
    have eight : (8 : UInt32).toNat = 8 := rfl
    rw [riffLength, UInt32.toNat_sub, UInt32.toNat_add, counted, header, eight]
    omega
  have stated : field (data samples sampleRate) 4 4 =
      Octets.decodeNat (Octets.encode32 (riffLength length)) := rfl
  rw [stated, Octets.decodeNat_encode32, sum, length_data]
  omega

/-- The word in front of the samples is the number of their bytes. -/
theorem field_data_dataLength (encodable : Encodable samples sampleRate) :
    field (data samples sampleRate) 40 4 = 2 * samples.length := by
  have size := encodable.size
  have stated : field (data samples sampleRate) 40 4 =
      Octets.decodeNat (Octets.encode32 (UInt32.ofNat (2 * samples.length))) := rfl
  rw [stated, Octets.decodeNat_encode32, UInt32.toNat_ofNat_of_lt' (by omega)]

/-- The word of the bytes of a second is twice the rate. -/
theorem field_data_byteRate (encodable : Encodable samples sampleRate) :
    field (data samples sampleRate) 28 4 = 2 * sampleRate.toNat := by
  have stated : field (data samples sampleRate) 28 4 =
      Octets.decodeNat (Octets.encode32 (UInt32.ofNat (2 * sampleRate.toNat))) := rfl
  rw [stated, Octets.decodeNat_encode32, UInt32.toNat_ofNat_of_lt' encodable.rate]

/-- The word of the bytes of a block is two. -/
theorem field_data_blockAlign (samples : List Int16) (sampleRate : UInt32) :
    field (data samples sampleRate) 32 2 = 2 := by
  have stated : field (data samples sampleRate) 32 2 =
      Octets.decodeNat (Octets.encode16 .little 2) := rfl
  rw [stated, Octets.decodeNat_encode16]
  rfl

end Words

/-- A sink without a limit takes samples exactly if the size of their file and their byte rate are
words. What it takes then is a file whose header words are true and which is read as the samples;
otherwise it is left as it was, for a defect. -/
theorem write_read_round_trip (written : List UInt8) (refusal : IoError) (samples : List Int16)
    (sampleRate : UInt32) :
    let sink : Sink := { written, refusal }
    let outcome := write sink samples sampleRate
    (outcome.1 = .ok () ↔
      2 * samples.length + 36 < UInt32.size ∧ 2 * sampleRate.toNat < UInt32.size) ∧
    (outcome.1 = .ok () → ∃ file,
      outcome.2 = { sink with written := written ++ file } ∧
      file.length = 44 + 2 * samples.length ∧
      field file 4 4 = file.length - 8 ∧
      field file 40 4 = 2 * samples.length ∧
      field file 28 4 = 2 * sampleRate.toNat ∧
      field file 32 2 = 2 ∧
      read (.ofBytes file) = .ok (.mono sampleRate, samples)) ∧
    (outcome.1 ≠ .ok () → ∃ defect, outcome = (.error (.invalidWave defect), sink)) := by
  intro sink outcome
  have sizes : Encodable samples sampleRate ↔
      2 * samples.length + 36 < UInt32.size ∧ 2 * sampleRate.toNat < UInt32.size :=
    ⟨fun encodable => ⟨encodable.size, encodable.rate⟩, fun small => ⟨small.1, small.2⟩⟩
  by_cases encodable : Encodable samples sampleRate
  · have taken : outcome =
        (.ok (), { sink with written := written ++ data samples sampleRate }) := by
      apply write_eq_ok_iff.mpr
      exact ⟨_, encode_eq_ok_iff.mpr ⟨encodable, rfl⟩, Sink.fits_of_unlimited rfl _, rfl⟩
    rw [taken]
    refine ⟨⟨fun _ => sizes.mp encodable, fun _ => rfl⟩, fun _ => ?_, fun refused => ?_⟩
    · exact ⟨data samples sampleRate, rfl, length_data samples sampleRate,
        field_data_riffLength encodable, field_data_dataLength encodable,
        field_data_byteRate encodable, field_data_blockAlign samples sampleRate,
        read_data encodable⟩
    · exact absurd rfl refused
  · obtain ⟨defect, refused⟩ := write_of_not_encodable sink encodable
    have same : outcome = (.error (.invalidWave defect), sink) := refused
    rw [same]
    refine ⟨⟨fun taken => ?_, fun small => ?_⟩, fun taken => ?_, fun _ => ⟨defect, rfl⟩⟩
    · contradiction
    · exact absurd (sizes.mpr small) encodable
    · contradiction

/-- So many samples that the sum behind the size in the signature passes the end of a word come
back, and a rate whose double is no word is refused. -/
theorem write_read_round_trip_longest :
    let samples : List Int16 := List.replicate 2147483629 (-1)
    (write {} samples 8000).1 = .ok () ∧
      (∃ file, (write {} samples 8000).2 = { written := file } ∧
        field file 4 4 = file.length - 8 ∧ read (.ofBytes file) = .ok (.mono 8000, samples)) ∧
      ∃ defect, write {} [1] 2147483648 = (.error (.invalidWave defect), {}) := by
  intro samples
  have count : samples.length = 2147483629 := List.length_replicate
  have word : UInt32.size = 4294967296 := rfl
  have slow : (8000 : UInt32).toNat = 8000 := rfl
  have fast : (2147483648 : UInt32).toNat = 2147483648 := rfl
  obtain ⟨taken, back, _⟩ := write_read_round_trip [] ({} : Sink).refusal samples 8000
  obtain ⟨many, _, refused⟩ := write_read_round_trip [] ({} : Sink).refusal [1] 2147483648
  have fits := taken.mpr ⟨by omega, by omega⟩
  obtain ⟨file, after, _, size, _, _, _, read⟩ := back fits
  refine ⟨fits, ⟨file, after, size, read⟩, refused fun wrong => ?_⟩
  have small := (many.mp wrong).2
  omega

end PcmLink.Wave
