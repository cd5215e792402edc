import PcmLink.Proofs.Wave.Reading

/-!
# The grammar of WAVE data

What the reader accepts, said without the reader: a signature, chunks that are passed over or
describe a format, at least one of the latter, a head that counts the bytes of the samples, those
bytes, and anything behind them. The grammar is met in both directions. Data laid out this way is
read as its last format and its samples, chunk by chunk from the front; and whatever the reader
accepts was laid out this way, by induction on the reading. Bytes that end are refused only for a
defect, so everything else is a defect.
-/

namespace PcmLink

/-- With a byte in front a number stays below 256 times its bound. -/
theorem Octets.decodeNat_cons_lt (byte : UInt8) {rest : List UInt8} {bound : Nat}
    (less : decodeNat rest < bound) : decodeNat (byte :: rest) < 256 * bound := by
  have digit := byte.toNat_lt
  rw [decodeNat]
  omega

/-- At most four bytes make the number of a word. -/
theorem Octets.decodeNat_lt {bytes : List UInt8} (short : bytes.length ≤ 4) :
    decodeNat bytes < UInt32.size := by
  have size : UInt32.size = 256 * (256 * (256 * (256 * 1))) := rfl
  have nothing : decodeNat [] < 1 := Nat.one_pos
  rcases bytes with _ | ⟨first, _ | ⟨second, _ | ⟨third, _ | ⟨fourth, rest⟩⟩⟩⟩
  · omega
  · have one := decodeNat_cons_lt first nothing
    omega
  · have two := decodeNat_cons_lt first (decodeNat_cons_lt second nothing)
    omega
  · have three := decodeNat_cons_lt first (decodeNat_cons_lt second
      (decodeNat_cons_lt third nothing))
    omega
  · have none_left : rest.length = 0 := by
      simp only [List.length_cons] at short
      omega
    obtain rfl := List.length_eq_zero_iff.mp none_left
    rw [size]
    exact decodeNat_cons_lt first (decodeNat_cons_lt second
      (decodeNat_cons_lt third (decodeNat_cons_lt fourth nothing)))

/-- Two bytes are those of the word of their number. -/
theorem Octets.encode16_decodeNat {bytes : List UInt8} (two : bytes.length = 2) :
    encode16 .little (UInt16.ofNat (decodeNat bytes)) = bytes := by
  match bytes, two with
  | [low, high], _ =>
    have number : decodeNat [low, high] = high.toNat * 256 + low.toNat := by
      simp only [decodeNat]
      omega
    rw [number, ← word16, encode16, low16_word16, high16_word16]

/-- Four bytes are those of the word of their number. -/
theorem Octets.encode32_decodeNat {bytes : List UInt8} (four : bytes.length = 4) :
    encode32 (UInt32.ofNat (decodeNat bytes)) = bytes := by
  have bound := decodeNat_lt (Nat.le_of_eq four)
  match bytes, four with
  | [first, second, third, fourth], _ =>
    have firstBound := first.toNat_lt
    have secondBound := second.toNat_lt
    have thirdBound := third.toNat_lt
    have fourthBound := fourth.toNat_lt
    rw [encode32, UInt32.toNat_ofNat_of_lt' bound]
    simp only [decodeNat, List.cons.injEq, and_true]
    refine ⟨?_, ?_, ?_, ?_⟩
    all_goals
      apply UInt8.toNat_inj.mp
      rw [UInt8.toNat_ofNat']
      omega

/-- The bytes at hand are those that were given. -/
theorem Source.bytes_ofBytes (bytes : List UInt8) : (ofBytes bytes).bytes = bytes := by
  by_cases empty : bytes = []
  · rw [ofBytes, if_pos empty, empty]
    rfl
  · rw [ofBytes, if_neg empty]
    exact List.append_nil bytes

namespace Wave

section Fields

variable {bytes : List UInt8} {offset width : Nat}

/-- A field of two bytes and what is behind it are what is at its place. -/
theorem encode16_field (inside : offset + 2 ≤ bytes.length) :
    Octets.encode16 .little (UInt16.ofNat (field bytes offset 2)) ++ bytes.drop (offset + 2) =
      bytes.drop offset := by
  have two : ((bytes.drop offset).take 2).length = 2 := by
    rw [List.length_take, List.length_drop]
    omega
  rw [field, Octets.encode16_decodeNat two, ← List.drop_drop, List.take_append_drop]

/-- A field of four bytes and what is behind it are what is at its place. -/
theorem encode32_field (inside : offset + 4 ≤ bytes.length) :
    Octets.encode32 (UInt32.ofNat (field bytes offset 4)) ++ bytes.drop (offset + 4) =
      bytes.drop offset := by
  have four : ((bytes.drop offset).take 4).length = 4 := by
    rw [List.length_take, List.length_drop]
    omega
  rw [field, Octets.encode32_decodeNat four, ← List.drop_drop, List.take_append_drop]

/-- A field does not see what is behind it. -/
theorem field_append_of_le (inside : offset + width ≤ bytes.length) (rest : List UInt8) :
    field (bytes ++ rest) offset width = field bytes offset width := by
  have enough : width ≤ (bytes.drop offset).length := by
    rw [List.length_drop]
    omega
  rw [field, List.drop_append_of_le_length (by omega), List.take_append_of_le_length enough, field]

/-- The fields of a format do not see what is behind them. -/
theorem formatOfBody_append (enough : 16 ≤ bytes.length) (rest : List UInt8) :
    formatOfBody (bytes ++ rest) = formatOfBody bytes := by
  simp only [formatOfBody]
  rw [field_append_of_le (by omega), field_append_of_le (by omega), field_append_of_le (by omega),
    field_append_of_le (by omega)]

/-- Enough bytes describe a format exactly if they begin with it and its samples are of sixteen
bits. -/
theorem formatOfBody_eq_ok_iff (enough : 16 ≤ bytes.length) {format : Format} :
    formatOfBody bytes = .ok format ↔
      format.bitsPerSample = 16 ∧
        ∃ blockAlign byteRate extra, bytes = formatBody format blockAlign byteRate ++ extra := by
  constructor
  · intro described
    simp only [formatOfBody] at described
    split at described
    · rename_i linear
      obtain rfl := Except.ok.inj described
      have tag : linearFormat = UInt16.ofNat (field bytes 0 2) := by rw [linear.1]; rfl
      have sixteen : UInt16.ofNat (field bytes 14 2) = 16 := by rw [linear.2]; rfl
      refine ⟨sixteen, UInt16.ofNat (field bytes 12 2), UInt32.ofNat (field bytes 8 4),
        bytes.drop 16, ?_⟩
      -- From the back, each field joins what is behind it, until all bytes are there.
      simp only [formatBody, List.append_assoc]
      rw [encode16_field (by omega), encode16_field (by omega), encode32_field (by omega),
        encode32_field (by omega), encode16_field (by omega), tag, encode16_field (by omega),
        List.drop_zero]
    · contradiction
  · rintro ⟨sixteen, blockAlign, byteRate, extra, rfl⟩
    have whole : (formatBody format blockAlign byteRate).length = 16 := rfl
    rw [formatOfBody_append (Nat.le_of_eq whole.symm), formatOfBody_formatBody sixteen]

/-- A head of eight bytes is a name and the length behind it. -/
theorem chunkHead_eq (eight : bytes.length = 8) :
    chunkHead (bytes.take 4) (UInt32.ofNat (field bytes 4 4)) = bytes := by
  have none_left : bytes.drop (4 + 4) = [] := List.drop_of_length_le (by omega)
  have back := encode32_field (show 4 + 4 ≤ bytes.length by omega)
  rw [none_left, List.append_nil] at back
  rw [chunkHead, back, List.take_append_drop]

/-- The length in a head is a word. -/
theorem toNat_field (bytes : List UInt8) (offset : Nat) :
    (UInt32.ofNat (field bytes offset 4)).toNat = field bytes offset 4 := by
  apply UInt32.toNat_ofNat_of_lt'
  exact Octets.decodeNat_lt (List.length_take_le 4 _)

end Fields

/-- A chunk in front of the samples. -/
structure Chunk where
  /-- What it is. -/
  name : List UInt8
  /-- The length of its body, as its head states it. -/
  length : UInt32
  /-- What it holds. -/
  body : List UInt8
  /-- What brings a body of odd length to an even one. -/
  padding : List UInt8
  /-- A name is four bytes. -/
  name_width : name.length = 4
  /-- The head tells the truth. -/
  body_width : body.length = length.toNat
  /-- An odd body is followed by one byte more. -/
  padding_width : padding.length = length.toNat % 2

namespace Chunk

/-- The bytes of a chunk. -/
def bytes (chunk : Chunk) : List UInt8 :=
  chunkHead chunk.name chunk.length ++ (chunk.body ++ chunk.padding)

/-- The chunk is neither a format nor the samples. -/
def IsPassed (chunk : Chunk) : Prop := chunk.name ≠ formatTag ∧ chunk.name ≠ dataTag

/-- The chunk is a format chunk whose body begins with the number of linear samples, the format
and its derived fields; its samples are of sixteen bits. -/
def Describes (chunk : Chunk) (format : Format) : Prop :=
  chunk.name = formatTag ∧ format.bitsPerSample = 16 ∧
    ∃ blockAlign byteRate extra, chunk.body = formatBody format blockAlign byteRate ++ extra

/-- The chunk can stand in front of the samples. -/
def IsAdmitted (chunk : Chunk) : Prop := chunk.IsPassed ∨ ∃ format, chunk.Describes format

/-- A body that begins with a format is long enough for one. -/
theorem Describes.enough {chunk : Chunk} {format : Format} (described : chunk.Describes format) :
    16 ≤ chunk.body.length := by
  obtain ⟨_, _, blockAlign, byteRate, extra, body⟩ := described
  have whole : (formatBody format blockAlign byteRate).length = 16 := rfl
  rw [body, List.length_append, whole]
  omega

/-- A body and its padding are as long as the reader expects. -/
theorem length_padded (chunk : Chunk) :
    (chunk.body ++ chunk.padding).length = padded chunk.length.toNat := by
  rw [List.length_append, chunk.body_width, chunk.padding_width, padded]

/-- A head and as many bytes as it asks for are a chunk. -/
theorem exists_of_head {head bytes : List UInt8} (eight : head.length = 8)
    (width : bytes.length = padded (field head 4 4)) :
    ∃ chunk : Chunk, chunk.bytes = head ++ bytes ∧ chunk.name = head.take 4 ∧
      chunk.length.toNat = field head 4 4 ∧ chunk.body ++ chunk.padding = bytes := by
  have word := toNat_field head 4
  have split := List.take_append_drop (field head 4 4) bytes
  rw [padded] at width
  let chunk : Chunk := {
    name := head.take 4
    length := UInt32.ofNat (field head 4 4)
    body := bytes.take (field head 4 4)
    padding := bytes.drop (field head 4 4)
    name_width := by rw [List.length_take]; omega
    body_width := by rw [List.length_take, word]; omega
    padding_width := by rw [List.length_drop, word]; omega }
  refine ⟨chunk, ?_, rfl, word, split⟩
  show chunkHead (head.take 4) _ ++ (bytes.take _ ++ bytes.drop _) = head ++ bytes
  rw [chunkHead_eq eight, split]

end Chunk

/-- The parts of WAVE data, in the order of the data. -/
structure Layout where
  /-- The size of the file, whatever it says. -/
  size : List UInt8
  /-- The chunks before the last format chunk. -/
  before : List Chunk
  /-- The last format chunk. -/
  last : Chunk
  /-- The format it describes. -/
  format : Format
  /-- The chunks between the last format chunk and the samples. -/
  between : List Chunk
  /-- The length of the samples in bytes, as their head states it. -/
  length : UInt32
  /-- The samples. -/
  samples : List Int16
  /-- A byte behind the samples that is no sample, if the length is odd. -/
  odd : List UInt8
  /-- What is behind the samples. -/
  rest : List UInt8
  /-- A size is four bytes. -/
  size_width : size.length = 4
  /-- The first chunks are passed over or describe a format. -/
  admitted : ∀ chunk ∈ before, chunk.IsAdmitted
  /-- The last format chunk describes the format. -/
  described : last.Describes format
  /-- The other chunks are passed over. -/
  passed : ∀ chunk ∈ between, chunk.IsPassed
  /-- Two bytes would be a sample. -/
  odd_short : odd.length < 2
  /-- The head tells the truth. -/
  width : (Samples.encode .little samples ++ odd).length = length.toNat

namespace Layout

/-- The chunks in front of the samples. -/
def chunks (layout : Layout) : List Chunk := layout.before ++ layout.last :: layout.between

/-- The bytes of the data. -/
def bytes (layout : Layout) : List UInt8 :=
  riffTag ++ layout.size ++ waveTag ++ (layout.chunks.flatMap Chunk.bytes ++
    (dataTag ++ Octets.encode32 layout.length ++
      ((Samples.encode .little layout.samples ++ layout.odd) ++ layout.rest)))

end Layout

section Completeness

/-- A chunk of another name is passed over. -/
theorem readChunks_passed (format : Option Format) {chunk : Chunk} (passed : chunk.IsPassed)
    (rest : List UInt8) :
    readChunks format (.ofBytes (chunk.bytes ++ rest)) = readChunks format (.ofBytes rest) := by
  have four := chunk.name_width
  have eight : (chunkHead chunk.name chunk.length).length = 8 := by
    rw [chunkHead, List.length_append, four]
    rfl
  have head := require_ofBytes "chunk header" eight (chunk.body ++ chunk.padding ++ rest)
  have skipped := require_ofBytes "chunk" chunk.length_padded rest
  have name : (chunkHead chunk.name chunk.length).take 4 = chunk.name := List.take_left' four
  have size := field_chunkHead four chunk.length
  rw [Chunk.bytes, List.append_assoc, readChunks]
  split
  · rename_i failed
    cases failed.symm.trans head
  · rename_i first after required
    obtain ⟨rfl, rfl⟩ := Prod.mk.inj (Except.ok.inj (head.symm.trans required))
    simp only [name, size, if_neg passed.1, if_neg passed.2]
    split
    · rename_i failed
      rw [size] at failed
      cases failed.symm.trans skipped
    · rename_i bytes left required
      rw [size] at required
      obtain ⟨rfl, rfl⟩ := Prod.mk.inj (Except.ok.inj (skipped.symm.trans required))
      rfl

/-- The format that a chunk describes replaces the format before it. -/
theorem readChunks_described (format : Option Format) {chunk : Chunk} {found : Format}
    (described : chunk.Describes found) (rest : List UInt8) :
    readChunks format (.ofBytes (chunk.bytes ++ rest)) =
      readChunks (some found) (.ofBytes rest) := by
  have enough := described.enough
  obtain ⟨name, sixteen⟩ := described
  have read : formatOfBody (chunk.body ++ chunk.padding) = .ok found := by
    rw [formatOfBody_append enough]
    exact (formatOfBody_eq_ok_iff enough).mpr sixteen
  have long : formatLength.toNat ≤ chunk.length.toNat := by
    rw [← chunk.body_width]
    exact enough
  rw [Chunk.bytes, name, List.append_assoc]
  exact readChunks_format format long chunk.length_padded read rest

/-- Chunks of other names are passed over. -/
theorem readChunks_flatMap_passed (format : Option Format) {chunks : List Chunk}
    (passed : ∀ chunk ∈ chunks, chunk.IsPassed) (rest : List UInt8) :
    readChunks format (.ofBytes (chunks.flatMap Chunk.bytes ++ rest)) =
      readChunks format (.ofBytes rest) := by
  induction chunks with
  | nil => rfl
  | cons chunk chunks ih =>
    have later := ih fun chunk found => passed chunk (List.mem_cons_of_mem _ found)
    rw [List.flatMap_cons, List.append_assoc,
      readChunks_passed format (passed chunk List.mem_cons_self), later]

/-- Behind chunks that can stand there the reader goes on with some format. -/
theorem exists_readChunks_admitted (format : Option Format) {chunks : List Chunk}
    (admitted : ∀ chunk ∈ chunks, chunk.IsAdmitted) (rest : List UInt8) :
    ∃ after, readChunks format (.ofBytes (chunks.flatMap Chunk.bytes ++ rest)) =
      readChunks after (.ofBytes rest) := by
  induction chunks generalizing format with
  | nil => exact ⟨format, rfl⟩
  | cons chunk chunks ih =>
    have later (format : Option Format) :=
      ih format fun chunk found => admitted chunk (List.mem_cons_of_mem _ found)
    rw [List.flatMap_cons, List.append_assoc]
    rcases admitted chunk List.mem_cons_self with passed | ⟨found, described⟩
    · rw [readChunks_passed format passed]
      exact later format
    · rw [readChunks_described format described]
      exact later (some found)

/-- Data that is laid out by the grammar is read. -/
theorem read_bytes (layout : Layout) :
    read (.ofBytes layout.bytes) = .ok (layout.format, layout.samples) := by
  have front : (riffTag ++ layout.size ++ waveTag).length = 12 := by
    rw [List.length_append, List.length_append, layout.size_width]
    rfl
  have signature : (riffTag ++ layout.size ++ waveTag).take 4 = riffTag := by
    rw [List.append_assoc]
    exact List.take_left' rfl
  have kind : (riffTag ++ layout.size ++ waveTag).drop 8 = waveTag := by
    apply List.drop_left'
    rw [List.length_append, layout.size_width]
    rfl
  have samples : Samples.ofStream .little .little
      (Samples.encode .little layout.samples ++ layout.odd) = layout.samples := by
    rw [Samples.ofStream_encode_append, Samples.ofStream_of_lt_two _ _ layout.odd_short,
      List.append_nil]
  let data := dataTag ++ Octets.encode32 layout.length ++
    ((Samples.encode .little layout.samples ++ layout.odd) ++ layout.rest)
  obtain ⟨after, reached⟩ := exists_readChunks_admitted none layout.admitted
    (layout.last.bytes ++ (layout.between.flatMap Chunk.bytes ++ data))
  rw [Layout.bytes, read, require_ofBytes "RIFF header" front]
  dsimp only
  rw [if_pos ⟨signature, kind⟩, Layout.chunks, List.flatMap_append, List.flatMap_cons,
    List.append_assoc, List.append_assoc]
  calc
    readChunks none _ = readChunks after (.ofBytes _) := reached
    _ = readChunks (some layout.format) (.ofBytes _) :=
      readChunks_described after layout.described _
    _ = readChunks (some layout.format) (.ofBytes data) :=
      readChunks_flatMap_passed _ layout.passed data
    _ = .ok (layout.format, Samples.ofStream .little .little _) :=
      readChunks_data layout.format layout.width layout.rest
    _ = .ok (layout.format, layout.samples) := by rw [samples]

end Completeness

section Soundness

/-- The format is the one that the last format chunk describes, or the one before all chunks if
there is no format chunk. -/
def IsLastFormat (format : Option Format) (chunks : List Chunk) (found : Format) : Prop :=
  (format = some found ∧ ∀ chunk ∈ chunks, chunk.IsPassed) ∨
    ∃ before last between, chunks = before ++ last :: between ∧
      (∀ chunk ∈ before, chunk.IsAdmitted) ∧ last.Describes found ∧
      ∀ chunk ∈ between, chunk.IsPassed

/-- A chunk that is passed over keeps the format. -/
theorem IsLastFormat.cons_passed {format : Option Format} {chunks : List Chunk} {found : Format}
    (isLast : IsLastFormat format chunks found) {chunk : Chunk} (passed : chunk.IsPassed) :
    IsLastFormat format (chunk :: chunks) found := by
  rcases isLast with ⟨same, others⟩ | ⟨before, last, between, rfl, admitted, described, others⟩
  · exact .inl ⟨same, List.forall_mem_cons.mpr ⟨passed, others⟩⟩
  · exact .inr ⟨chunk :: before, last, between, rfl,
      List.forall_mem_cons.mpr ⟨.inl passed, admitted⟩, described, others⟩

/-- A chunk that describes a format replaces the format before it. -/
theorem IsLastFormat.cons_described {chunks : List Chunk} {next found : Format}
    (isLast : IsLastFormat (some next) chunks found) {chunk : Chunk}
    (described : chunk.Describes next) (format : Option Format) :
    IsLastFormat format (chunk :: chunks) found := by
  rcases isLast with ⟨same, others⟩ | ⟨before, last, between, rfl, admitted, later, others⟩
  · obtain rfl := Option.some.inj same
    exact .inr ⟨[], chunk, chunks, rfl, List.forall_mem_nil _, described, others⟩
  · exact .inr ⟨chunk :: before, last, between, rfl,
      List.forall_mem_cons.mpr ⟨.inr ⟨next, described⟩, admitted⟩, later, others⟩

/-- What the reader accepts are chunks, the last format among them, and the bytes of the samples. -/
theorem exists_chunks_of_readChunks {format : Option Format} {source : Source} {found : Format}
    {samples : List Int16} (accepted : readChunks format source = .ok (found, samples)) :
    ∃ (chunks : List Chunk) (length : UInt32) (body rest : List UInt8),
      source.bytes = chunks.flatMap Chunk.bytes ++ (chunkHead dataTag length ++ (body ++ rest)) ∧
        IsLastFormat format chunks found ∧ body.length = length.toNat ∧
        samples = Samples.ofStream .little .little body := by
  -- Each case is one way through the loop; only three of them do not refuse.
  fun_induction readChunks format source with
  | case1 | case2 | case3 | case4 | case6 | case7 | case9 => contradiction
  | case5 format source head after required name length isFormat long bytes left body next
      described ih =>
    obtain ⟨eight, front⟩ := bytes_of_require required
    obtain ⟨width, back⟩ := bytes_of_require body
    obtain ⟨chunk, whole, named, size, split⟩ := Chunk.exists_of_head eight width
    obtain ⟨chunks, count, samplesBytes, rest, layout, isLast, exact, read⟩ := ih accepted
    have enough : 16 ≤ chunk.body.length := by
      rw [chunk.body_width, size]
      exact Nat.le_of_not_lt long
    have describes : chunk.Describes next := by
      rw [← split, formatOfBody_append enough, formatOfBody_eq_ok_iff enough] at described
      exact ⟨named.trans isFormat, described⟩
    refine ⟨chunk :: chunks, count, samplesBytes, rest, ?_, isLast.cons_described describes format,
      exact, read⟩
    rw [front, back, layout, List.flatMap_cons, whole]
    simp only [List.append_assoc]
  | case8 source head after required name length notFormat isData next bytes left body =>
    obtain ⟨eight, front⟩ := bytes_of_require required
    obtain ⟨width, back⟩ := bytes_of_require body
    obtain ⟨rfl, rfl⟩ := Prod.mk.inj (Except.ok.inj accepted)
    refine ⟨[], UInt32.ofNat (field head 4 4), bytes, left.bytes, ?_,
      .inl ⟨rfl, List.forall_mem_nil _⟩, ?_, rfl⟩
    · rw [front, back, ← isData, chunkHead_eq eight]
      rfl
    · rw [width, toNat_field]
  | case10 format source head after required name length notFormat notData bytes left body ih =>
    obtain ⟨eight, front⟩ := bytes_of_require required
    obtain ⟨width, back⟩ := bytes_of_require body
    obtain ⟨chunk, whole, named, size, split⟩ := Chunk.exists_of_head eight width
    obtain ⟨chunks, count, samplesBytes, rest, layout, isLast, exact, read⟩ := ih accepted
    have passed : chunk.IsPassed := ⟨named ▸ notFormat, named ▸ notData⟩
    refine ⟨chunk :: chunks, count, samplesBytes, rest, ?_, isLast.cons_passed passed, exact, read⟩
    rw [front, back, layout, List.flatMap_cons, whole]
    simp only [List.append_assoc]

/-- What the reader accepts is laid out by the grammar. -/
theorem exists_layout_of_read {source : Source} {format : Format} {samples : List Int16}
    (accepted : read source = .ok (format, samples)) :
    ∃ layout : Layout, layout.bytes = source.bytes ∧ layout.format = format ∧
      layout.samples = samples := by
  unfold read at accepted
  split at accepted
  · contradiction
  · rename_i head after required
    obtain ⟨twelve, front⟩ := bytes_of_require required
    split at accepted
    · rename_i signature
      obtain ⟨chunks, length, body, rest, back, isLast, exact, read⟩ :=
        exists_chunks_of_readChunks accepted
      rcases isLast with ⟨none_yet, _⟩ | ⟨before, last, between, rfl, admitted, described, passed⟩
      · contradiction
      · obtain ⟨odd, short, whole⟩ := Samples.exists_encode_ofStream .little .little body
        rw [← read] at whole
        have size : ((head.drop 4).take 4).length = 4 := by
          rw [List.length_take, List.length_drop]
          omega
        have signed : riffTag ++ (head.drop 4).take 4 ++ waveTag = head := by
          rw [← signature.1, ← signature.2, show 8 = 4 + 4 from rfl, ← List.drop_drop,
            List.append_assoc, List.take_append_drop, List.take_append_drop]
        let layout : Layout := {
          size := (head.drop 4).take 4
          before, last, format, between, length, samples, odd, rest
          size_width := size
          admitted, described, passed
          odd_short := short
          width := whole ▸ exact }
        refine ⟨layout, ?_, rfl, rfl⟩
        rw [front, back, Layout.bytes, signed, ← whole]
        rfl
    · contradiction

end Soundness

section Refusal

/-- Of bytes that end, too few are the only failure. -/
theorem require_of_ends {part : String} {want : Nat} {source : Source} {error : Error}
    (ends : source.failure = none) (refused : require part want source = .error error) :
    error = .invalidWave (.truncated part) := by
  simp only [require, Source.readUpTo, ends] at refused
  split at refused
  · exact (Except.error.inj refused).symm
  · contradiction

/-- What is left of bytes that end ends as well. -/
theorem ends_of_require {part : String} {want : Nat} {source rest : Source} {bytes : List UInt8}
    (ends : source.failure = none) (read : require part want source = .ok (bytes, rest)) :
    rest.failure = none := by
  simp only [require, Source.readUpTo, ends] at read
  split at read
  · contradiction
  · obtain ⟨_, rfl⟩ := Prod.mk.inj (Except.ok.inj read)
    rfl

/-- Chunks of bytes that end are refused only for a defect. -/
theorem exists_defect_of_readChunks {format : Option Format} {source : Source} {error : Error}
    (ends : source.failure = none) (refused : readChunks format source = .error error) :
    ∃ defect, error = .invalidWave defect := by
  fun_induction readChunks format source with
  | case1 format source cause required =>
    obtain rfl := Except.error.inj refused
    exact ⟨_, require_of_ends ends required⟩
  | case2 | case4 | case6 =>
    obtain rfl := Except.error.inj refused
    exact ⟨_, rfl⟩
  | case3 format source head after required name length isFormat long cause body
  | case7 source head after required name length notFormat isData next cause body
  | case9 format source head after required name length notFormat notData cause body =>
    obtain rfl := Except.error.inj refused
    exact ⟨_, require_of_ends (ends_of_require ends required) body⟩
  | case5 format source head after required name length isFormat long bytes left body next
      described ih =>
    exact ih (ends_of_require (ends_of_require ends required) body) refused
  | case8 => contradiction
  | case10 format source head after required name length notFormat notData bytes left body ih =>
    exact ih (ends_of_require (ends_of_require ends required) body) refused

/-- Bytes that end are refused only for a defect. -/
theorem exists_defect_of_read {source : Source} {error : Error} (ends : source.failure = none)
    (refused : read source = .error error) : ∃ defect, error = .invalidWave defect := by
  unfold read at refused
  split at refused
  · rename_i cause required
    obtain rfl := Except.error.inj refused
    exact ⟨_, require_of_ends ends required⟩
  · rename_i head after required
    split at refused
    · exact exists_defect_of_readChunks (ends_of_require ends required) refused
    · obtain rfl := Except.error.inj refused
      exact ⟨_, rfl⟩

end Refusal

/-- Bytes are read exactly if the grammar lays them out, as the format and the samples of the
layout; what is behind the samples has no influence. All other bytes are refused for a defect. -/
theorem read_accepts_layouts (bytes : List UInt8) :
    (∀ format samples, read (.ofBytes bytes) = .ok (format, samples) ↔
      ∃ layout : Layout, layout.bytes = bytes ∧ layout.format = format ∧
        layout.samples = samples) ∧
    (∀ layout : Layout, layout.bytes = bytes → ∀ rest,
      read (.ofBytes { layout with rest }.bytes) = read (.ofBytes bytes)) ∧
    ((¬ ∃ layout : Layout, layout.bytes = bytes) →
      ∃ defect, read (.ofBytes bytes) = .error (.invalidWave defect)) := by
  refine ⟨fun format samples => ⟨fun accepted => ?_, ?_⟩, ?_, fun foreign => ?_⟩
  · obtain ⟨layout, same, parts⟩ := exists_layout_of_read accepted
    rw [Source.bytes_ofBytes] at same
    exact ⟨layout, same, parts⟩
  · rintro ⟨layout, rfl, rfl, rfl⟩
    exact read_bytes layout
  · rintro layout rfl rest
    rw [read_bytes layout]
    exact read_bytes { layout with rest }
  · cases outcome : read (.ofBytes bytes) with
    | ok result =>
      obtain ⟨layout, same, _⟩ := exists_layout_of_read outcome
      rw [Source.bytes_ofBytes] at same
      exact absurd ⟨layout, same⟩ foreign
    | error error =>
      have ends : (Source.ofBytes bytes).failure = none := rfl
      obtain ⟨defect, rfl⟩ := exists_defect_of_read ends outcome
      exact ⟨defect, rfl⟩

/-- A padded chunk, a longer format chunk for two channels, the format that counts, the padded
chunk again, two samples with a byte too many, and three bytes behind them are read; a signature
alone is refused. -/
theorem read_accepts_layouts_padded :
    let listed := chunkHead [0x4c, 0x49, 0x53, 0x54] 3 ++ [0x61, 0x62, 0x63, 0]
    let stereo : Format := { channels := 2, sampleRate := 8000, bitsPerSample := 16 }
    let formats := chunkHead formatTag 18 ++ (formatBody stereo 4 32000 ++ [9, 9]) ++
      (chunkHead formatTag 16 ++ formatBody (.mono 48000) 2 96000)
    let data := chunkHead dataTag 5 ++ [1, 0, 0xfe, 0xff, 7]
    let bytes := riffTag ++ [0, 0, 0, 0] ++ waveTag ++
      (listed ++ formats ++ listed ++ data ++ [1, 2, 3])
    read (.ofBytes bytes) = .ok (.mono 48000, [1, -2]) ∧
      ∃ defect, read (.ofBytes riffTag) = .error (.invalidWave defect) := by
  intro listed stereo formats data bytes
  let other : Chunk := {
    name := [0x4c, 0x49, 0x53, 0x54], length := 3, body := [0x61, 0x62, 0x63], padding := [0]
    name_width := rfl, body_width := rfl, padding_width := rfl }
  let wide : Chunk := {
    name := formatTag, length := 18, body := formatBody stereo 4 32000 ++ [9, 9], padding := []
    name_width := rfl, body_width := rfl, padding_width := rfl }
  let plain : Chunk := {
    name := formatTag, length := 16, body := formatBody (.mono 48000) 2 96000, padding := []
    name_width := rfl, body_width := rfl, padding_width := rfl }
  have passed : other.IsPassed := ⟨by decide, by decide⟩
  have described : wide.Describes stereo := ⟨rfl, rfl, 4, 32000, [9, 9], rfl⟩
  have last : plain.Describes (.mono 48000) :=
    ⟨rfl, rfl, 2, 96000, [], (List.append_nil _).symm⟩
  let layout : Layout := {
    size := [0, 0, 0, 0], before := [other, wide], last := plain, format := .mono 48000
    between := [other], length := 5, samples := [1, -2], odd := [7], rest := [1, 2, 3]
    size_width := rfl
    admitted := List.forall_mem_cons.mpr
      ⟨.inl passed, List.forall_mem_singleton.mpr (.inr ⟨stereo, described⟩)⟩
    described := last
    passed := List.forall_mem_singleton.mpr passed
    odd_short := by decide
    width := rfl }
  have same : layout.bytes = bytes := rfl
  refine ⟨((read_accepts_layouts bytes).1 _ _).mpr ⟨layout, same, rfl, rfl⟩,
    (read_accepts_layouts riffTag).2.2 ?_⟩
  rintro ⟨layout, same⟩
  have count := congrArg List.length same
  have size := layout.size_width
  have tags : riffTag.length = 4 ∧ waveTag.length = 4 := ⟨rfl, rfl⟩
  simp only [Layout.bytes, List.length_append, tags, size] at count
  omega

end Wave

end PcmLink
