import PcmLink.Proofs.Wave.Grammar

/-!
# WAVE data cut short

A sink that fills up keeps the front of the data, wherever the cut falls: in the header, between the
header and the samples, or in the samples. A front that is not the whole is never taken for WAVE
data. For if it were, the bytes behind it would have no influence, so it would be read as all the
samples, and it has no room for them.
-/

namespace PcmLink

namespace Wave

section Writing

variable {samples : List Int16} {sampleRate : UInt32}

/-- An empty sink with a limit keeps what fits of the data of samples, and refuses the others. -/
theorem write_of_limit (encodable : Encodable samples sampleRate) (limit : Nat)
    (refusal : IoError) :
    write { limit := some limit, refusal } samples sampleRate =
      (if 44 + 2 * samples.length ≤ limit then .ok () else .error (.io refusal),
        { limit := some limit, refusal, written := (data samples sampleRate).take limit }) := by
  obtain ⟨header, built, width, parts⟩ := exists_headerOf encodable
  have first : Sink.write { limit := some limit, refusal } header = _ :=
    Sink.write_of_limit rfl (Nat.zero_le limit) header
  simp only [List.length_nil, List.nil_append, Nat.zero_add, width] at first
  rw [write, built, parts]
  dsimp only
  rw [first]
  by_cases headed : 44 ≤ limit
  · have room : header.length ≤ limit := Nat.le_trans (Nat.le_of_eq width) headed
    have second : Sink.write { limit := some limit, refusal, written := header } (body samples) =
        _ := Sink.write_of_limit rfl room (body samples)
    rw [width, body, Samples.length_encode, ← body] at second
    rw [if_pos headed, List.take_of_length_le room]
    dsimp only
    rw [second]
    by_cases fits : 44 + 2 * samples.length ≤ limit
    · rw [if_pos fits, if_pos fits]
    · rw [if_neg fits, if_neg fits]
  · -- The samples are not reached, and what fits of the header is what fits of the whole.
    have short : limit ≤ header.length := by omega
    rw [if_neg headed, if_neg (by omega), List.take_append_of_le_length short]

end Writing

section Reading

/-- A layout has room for its signature, a format, and its samples behind their head. -/
theorem Layout.le_length_bytes (layout : Layout) :
    44 + 2 * layout.samples.length ≤ layout.bytes.length := by
  have size := layout.size_width
  have name := layout.last.name_width
  have format := layout.described.enough
  have tags : riffTag.length = 4 ∧ waveTag.length = 4 ∧ dataTag.length = 4 := ⟨rfl, rfl, rfl⟩
  have word : ∀ word : UInt32, (Octets.encode32 word).length = 4 := fun _ => rfl
  simp only [bytes, chunks, Chunk.bytes, chunkHead, List.flatMap_append, List.flatMap_cons,
    List.length_append, Samples.length_encode, tags, size, name, word]
  omega

/-- Bytes behind WAVE data have no influence. -/
theorem read_append {front : Source} {format : Format} {samples : List Int16}
    (accepted : read front = .ok (format, samples)) (rest : List UInt8) :
    read (.ofBytes (front.bytes ++ rest)) = .ok (format, samples) := by
  obtain ⟨layout, same, rfl, rfl⟩ := exists_layout_of_read accepted
  have longer : { layout with rest := layout.rest ++ rest }.bytes = layout.bytes ++ rest := by
    simp only [Layout.bytes, Layout.chunks, List.append_assoc]
  rw [← same, ← longer]
  exact read_bytes { layout with rest := layout.rest ++ rest }

/-- A front of the data of samples that is not the whole is refused for a defect. -/
theorem exists_defect_of_prefix {samples : List Int16} {sampleRate : UInt32}
    (encodable : Encodable samples sampleRate) {source : Source} (ends : source.failure = none)
    (front : source.bytes <+: data samples sampleRate)
    (cut : source.bytes ≠ data samples sampleRate) :
    ∃ defect, read source = .error (.invalidWave defect) := by
  cases outcome : read source with
  | error error =>
    obtain ⟨defect, rfl⟩ := exists_defect_of_read ends outcome
    exact ⟨defect, rfl⟩
  | ok result =>
    obtain ⟨format, found⟩ := result
    obtain ⟨rest, whole⟩ := front
    have all := read_append outcome rest
    rw [whole, read_data encodable] at all
    obtain ⟨rfl, rfl⟩ := Prod.mk.inj (Except.ok.inj all)
    obtain ⟨layout, same, _, count⟩ := exists_layout_of_read outcome
    have enough := layout.le_length_bytes
    rw [same, count, ← length_data samples sampleRate] at enough
    exact absurd (List.IsPrefix.eq_of_length_le ⟨rest, whole⟩ enough) cut

/-- What a cut leaves of the data of samples is refused for a defect. -/
theorem exists_defect_of_take {samples : List Int16} {sampleRate : UInt32}
    (encodable : Encodable samples sampleRate) {limit : Nat}
    (few : limit < 44 + 2 * samples.length) :
    ∃ defect, read (.ofBytes ((data samples sampleRate).take limit)) =
      .error (.invalidWave defect) := by
  have front := Source.bytes_ofBytes ((data samples sampleRate).take limit)
  apply exists_defect_of_prefix encodable rfl
  · rw [front]
    exact List.take_prefix limit _
  · rw [front]
    intro uncut
    have count := congrArg List.length uncut
    rw [List.length_take, length_data] at count
    omega

end Reading

/-- For samples whose data a sink without a limit takes, a sink with a limit keeps the front of that
data up to the limit. It takes the samples exactly if the data is no longer than that, and otherwise
fails for want of room and has kept what is refused for a defect. So is every front of the data that
is not the whole, in whatever pieces it is read. -/
theorem cut_data_is_refused (samples : List Int16) (sampleRate : UInt32)
    (accepted : (write {} samples sampleRate).1 = .ok ()) :
    let file := (write {} samples sampleRate).2.written
    let length := 44 + 2 * samples.length
    file.length = length ∧
    (∀ limit,
      let (result, sink) := write { limit := some limit } samples sampleRate
      sink.written = file.take (min limit length) ∧
        (result = .ok () ↔ length ≤ limit) ∧
        (limit < length →
          (∃ failure, result = .error (.io failure) ∧ failure.kind = .writeZero) ∧
          ∃ defect, read (.ofBytes sink.written) = .error (.invalidWave defect))) ∧
    (∀ source : Source, source.failure = none → source.bytes <+: file → source.bytes ≠ file →
      ∃ defect, read source = .error (.invalidWave defect)) := by
  have encodable : Encodable samples sampleRate := by
    obtain ⟨bytes, encoded, _⟩ := write_eq_ok_iff.mp (Prod.ext accepted rfl)
    exact (encode_eq_ok_iff.mp encoded).1
  have whole := length_data samples sampleRate
  intro file length
  have same : file = data samples sampleRate := by
    show (write {} samples sampleRate).2.written = _
    rw [write_of_encodable encodable]
  rw [same]
  refine ⟨whole, fun limit => ?_, fun source ends => exists_defect_of_prefix encodable ends⟩
  have kept : (data samples sampleRate).take (min limit length) =
      (data samples sampleRate).take limit := by
    show (data samples sampleRate).take (min limit (44 + 2 * samples.length)) = _
    rw [← whole, ← List.take_eq_take_min]
  rw [write_of_limit encodable, kept]
  refine ⟨rfl, ?_, fun few => ⟨?_, exists_defect_of_take encodable few⟩⟩
  · by_cases fits : length ≤ limit <;> simp [length, fits]
  · exact ⟨_, if_neg (Nat.not_le.mpr few), rfl⟩

/-- Without samples a sink for the header is enough and one byte less is not. With two samples the
header alone is refused, as is, in two pieces, all but the last byte. -/
theorem cut_data_is_refused_everywhere :
    let file := (write {} [1, -2] 48000).2.written
    (write {} [] 48000).1 = .ok () ∧
      (write { limit := some 44 } [] 48000).1 = .ok () ∧
      (∃ defect, read (.ofBytes (write { limit := some 43 } [] 48000).2.written) =
        .error (.invalidWave defect)) ∧
      (write {} [1, -2] 48000).1 = .ok () ∧
      (write { limit := some 44 } [1, -2] 48000).2.written = file.take 44 ∧
      (∃ defect, read (.ofBytes (write { limit := some 44 } [1, -2] 48000).2.written) =
        .error (.invalidWave defect)) ∧
      ∃ defect, read { pieces := [file.take 12, (file.drop 12).take 35] } =
        .error (.invalidWave defect) := by
  intro file
  have none_taken : (write {} [] 48000).1 = .ok () := rfl
  have two_taken : (write {} [1, -2] 48000).1 = .ok () := rfl
  obtain ⟨_, header, _⟩ := cut_data_is_refused [] 48000 none_taken
  obtain ⟨_, samples, fronts⟩ := cut_data_is_refused [1, -2] 48000 two_taken
  have enough := (header 44).2.1.mpr (by decide)
  have short := ((header 43).2.2 (by decide)).2
  have headed := (samples 44).1
  have bare := ((samples 44).2.2 (by decide)).2
  have pieces := fronts { pieces := [file.take 12, (file.drop 12).take 35] } rfl
    ⟨[0xff], by decide⟩ (by decide)
  exact ⟨none_taken, enough, short, two_taken, headed, bare, pieces⟩

end Wave

end PcmLink
