import PcmLink.Samples

/-!
# Samples and streams

Samples written in an order are read back from that order by every host, whatever follows them, so
streams can be cut between samples and joined again. A stream has a sample for each full pair of
its bytes, the number of that pair in two's complement; joined behind a byte left over, another
stream is paired with that byte first.
-/

namespace PcmLink

/-- The two bytes of a word are the word again. -/
theorem Octets.decode16_of_encode16 {order : ByteOrder} {word : UInt16} {first second : UInt8}
    (bytes : encode16 order word = [first, second]) : decode16 order first second = word := by
  cases order with
  | big =>
    obtain ⟨rfl, rest⟩ := List.cons.inj bytes
    obtain ⟨rfl, _⟩ := List.cons.inj rest
    exact word16_high16_low16 word
  | little =>
    obtain ⟨rfl, rest⟩ := List.cons.inj bytes
    obtain ⟨rfl, _⟩ := List.cons.inj rest
    exact word16_high16_low16 word

/-- Two bytes are those of their word. -/
theorem Octets.encode16_decode16 (order : ByteOrder) (first second : UInt8) :
    encode16 order (decode16 order first second) = [first, second] := by
  cases order with
  | big => rw [decode16, encode16, high16_word16, low16_word16]
  | little => rw [decode16, encode16, low16_word16, high16_word16]

/-- A word has two bytes. -/
theorem Octets.exists_encode16 (order : ByteOrder) (word : UInt16) :
    ∃ first second, encode16 order word = [first, second] := by
  cases order <;> exact ⟨_, _, rfl⟩

namespace Samples

/-- The number that two bytes write in two's complement. -/
def twosComplement (high low : UInt8) : Int :=
  let unsigned : Int := 256 * high.toNat + low.toNat
  if high.toNat < 128 then unsigned else unsigned - 65536

/-- The number that a pair of bytes writes in the order of the wire. -/
def pairNumber (wire : ByteOrder) (first second : UInt8) : Int :=
  match wire with
  | .big => twosComplement first second
  | .little => twosComplement second first

/-- The samples of a stream are the same for every host. -/
theorem ofStream_host (wire host other : ByteOrder) (stream : List UInt8) :
    ofStream wire host stream = ofStream wire other stream := by
  fun_induction ofStream wire host stream with
  | case1 first second rest ih => rw [ofStream, readPair_eq, readPair_eq, ih]
  | case2 stream short =>
    rw [ofStream]
    exact short

/-- Samples in front of a stream are read first. -/
theorem ofStream_encode_append (order host : ByteOrder) (samples : List Int16)
    (rest : List UInt8) :
    ofStream order host (encode order samples ++ rest) = samples ++ ofStream order host rest := by
  induction samples with
  | nil => rfl
  | cons sample samples ih =>
    obtain ⟨first, second, bytes⟩ := Octets.exists_encode16 order sample.toUInt16
    have word := Octets.decode16_of_encode16 bytes
    simp only [encode] at ih
    simp only [encode, List.flatMap_cons, bytes, List.cons_append, List.nil_append,
      ofStream, readPair_eq, word, ih]
    rfl

/-- Samples are read back from their bytes. -/
theorem ofStream_encode (order host : ByteOrder) (samples : List Int16) :
    ofStream order host (encode order samples) = samples := by
  have whole := ofStream_encode_append order host samples []
  have nothing : ofStream order host [] = [] := by simp [ofStream]
  rwa [List.append_nil, nothing, List.append_nil] at whole

/-- A byte alone is no sample. -/
theorem ofStream_of_lt_two (wire host : ByteOrder) {stream : List UInt8}
    (short : stream.length < 2) : ofStream wire host stream = [] := by
  match stream, short with
  | [], _ => rw [ofStream]; simp
  | [_], _ => rw [ofStream]; simp

/-- A stream without two bytes to begin with has one byte at most. -/
theorem length_lt_two {stream : List UInt8}
    (short : ∀ first second rest, stream = first :: second :: rest → False) :
    stream.length < 2 := by
  match stream with
  | [] => exact Nat.two_pos
  | [_] => exact Nat.one_lt_two
  | first :: second :: rest => exact absurd rfl (short first second rest)

/-- A stream is the bytes of its samples and at most one byte behind them. -/
theorem exists_encode_ofStream (order host : ByteOrder) (stream : List UInt8) :
    ∃ odd, odd.length < 2 ∧ stream = encode order (ofStream order host stream) ++ odd := by
  fun_induction ofStream order host stream with
  | case1 first second rest ih =>
    obtain ⟨odd, short, whole⟩ := ih
    refine ⟨odd, short, ?_⟩
    have pair : Octets.encode16 order (readPair order host first second).toInt16.toUInt16 =
        [first, second] := by
      rw [UInt16.toUInt16_toInt16, readPair_eq, Octets.encode16_decode16]
    rw [encode, List.flatMap_cons, pair, ← encode, List.append_assoc, ← whole]
    rfl
  | case2 stream short => exact ⟨stream, length_lt_two short, rfl⟩

/-- A sample is two bytes. -/
theorem length_encode (order : ByteOrder) (samples : List Int16) :
    (encode order samples).length = 2 * samples.length := by
  induction samples with
  | nil => rfl
  | cons sample samples ih =>
    obtain ⟨first, second, bytes⟩ := Octets.exists_encode16 order sample.toUInt16
    simp only [encode] at ih
    simp only [encode, List.flatMap_cons, bytes, List.length_append, List.length_cons,
      List.length_nil, ih]
    omega

/-- A stream has a sample for each full pair of bytes. -/
theorem length_ofStream (wire host : ByteOrder) (stream : List UInt8) :
    (ofStream wire host stream).length = stream.length / 2 := by
  fun_induction ofStream wire host stream with
  | case1 first second rest ih =>
    simp only [List.length_cons, ih]
    omega
  | case2 stream short => rw [List.length_nil, Nat.div_eq_of_lt (length_lt_two short)]

/-- A word of two bytes is a sample of the number that they write. -/
theorem toInt_word16 (high low : UInt8) :
    (Octets.word16 high low).toInt16.toInt = twosComplement high low := by
  have h := high.toNat_lt
  have l := low.toNat_lt
  have word : (Octets.word16 high low).toNat = 256 * high.toNat + low.toNat := by
    rw [Octets.word16, UInt16.toNat_ofNat']
    omega
  show (Octets.word16 high low).toBitVec.toInt = twosComplement high low
  rw [BitVec.toInt_eq_toNat_cond, UInt16.toNat_toBitVec, word, twosComplement]
  by_cases positive : high.toNat < 128
  · rw [if_pos positive, if_pos (by omega)]
    omega
  · rw [if_neg positive, if_neg (by omega)]
    omega

/-- Every host reads a pair as the number that it writes on the wire. -/
theorem toInt_readPair (wire host : ByteOrder) (first second : UInt8) :
    (readPair wire host first second).toInt16.toInt = pairNumber wire first second := by
  rw [readPair_eq]
  cases wire with
  | big => exact toInt_word16 first second
  | little => exact toInt_word16 second first

/-- A sample is the number that the pair of bytes at its place writes. -/
theorem getElem?_ofStream (wire host : ByteOrder) (stream : List UInt8) (place : Nat) :
    (ofStream wire host stream)[place]?.map Int16.toInt =
      stream[2 * place]?.bind fun first =>
        stream[2 * place + 1]?.map fun second => pairNumber wire first second := by
  fun_induction ofStream wire host stream generalizing place with
  | case1 first second rest ih =>
    cases place with
    | zero => exact congrArg some (toInt_readPair wire host first second)
    | succ place =>
      have behind : 2 * (place + 1) = 2 * place + 1 + 1 := by omega
      rw [behind, List.getElem?_cons_succ, ih]
      rfl
  | case2 stream short =>
    have single := length_lt_two short
    have missing : stream[2 * place + 1]? = none := List.getElem?_eq_none (by omega)
    rw [missing]
    cases stream[2 * place]? <;> rfl

/-- The bytes of the samples of a stream are the full pairs of its bytes. -/
theorem encode_ofStream (order host : ByteOrder) (stream : List UInt8) :
    encode order (ofStream order host stream) = stream.take (2 * (stream.length / 2)) := by
  obtain ⟨odd, short, whole⟩ := exists_encode_ofStream order host stream
  have width : (encode order (ofStream order host stream)).length = 2 * (stream.length / 2) := by
    rw [length_encode, length_ofStream]
  calc
    _ = (encode order (ofStream order host stream) ++ odd).take (2 * (stream.length / 2)) :=
      (List.take_left' width).symm
    _ = stream.take (2 * (stream.length / 2)) := by rw [← whole]

variable {wire host : ByteOrder} {front : List UInt8}

/-- A stream that is cut between samples is read in two parts. -/
theorem ofStream_append_of_even (even : front.length % 2 = 0) (behind : List UInt8) :
    ofStream wire host (front ++ behind) =
      ofStream wire host front ++ ofStream wire host behind := by
  have whole : front = encode wire (ofStream wire host front) := by
    have all : 2 * (front.length / 2) = front.length := by omega
    rw [encode_ofStream, all, List.take_length]
  calc
    _ = ofStream wire host (encode wire (ofStream wire host front) ++ behind) := by rw [← whole]
    _ = ofStream wire host front ++ ofStream wire host behind :=
      ofStream_encode_append wire host _ behind

/-- A byte left over is the first of the pair with the byte behind it. -/
theorem ofStream_append_of_odd {last : UInt8} (odd : front.length % 2 = 1)
    (left : front.getLast? = some last) (first : UInt8) (behind : List UInt8) :
    ofStream wire host (front ++ first :: behind) =
      ofStream wire host front ++
        (readPair wire host last first).toInt16 :: ofStream wire host behind := by
  obtain ⟨pairs, rfl⟩ := List.getLast?_eq_some_iff.mp left
  have even : pairs.length % 2 = 0 := by
    rw [List.length_append, List.length_singleton] at odd
    omega
  have alone : ofStream wire host [last] = [] := ofStream_of_lt_two wire host Nat.one_lt_two
  rw [List.append_assoc, ofStream_append_of_even even, ofStream_append_of_even even, alone,
    List.append_nil]
  rfl

/-- Samples are what the pairs of bytes of a stream write, whatever the host that reads them: there
are half as many as there are bytes, each is the number of its pair in two's complement, and their
bytes are those of the stream without an odd last one. Samples written to a stream come back from
it. A stream that is joined behind full pairs gives its own samples behind theirs; behind a byte left
over, its first byte completes a sample with that one and the rest of it gives the samples after. -/
theorem samples_match_stream (wire host : ByteOrder) (stream : List UInt8) :
    let samples := ofStream wire host stream
    ofWire = ofStream .big host ∧
    ofStream wire .big stream = ofStream wire .little stream ∧
    samples.length = stream.length / 2 ∧
    (∀ place, samples[place]?.map Int16.toInt =
      stream[2 * place]?.bind fun first =>
        stream[2 * place + 1]?.map fun second => pairNumber wire first second) ∧
    encode wire samples = stream.take (2 * (stream.length / 2)) ∧
    (∀ written, ofStream wire host (encode wire written) = written) ∧
    (stream.length % 2 = 0 → ∀ behind,
      ofStream wire host (stream ++ behind) = samples ++ ofStream wire host behind) ∧
    (stream.length % 2 = 1 → ∀ last, stream.getLast? = some last → ∀ first behind,
      ∃ sample : Int16, sample.toInt = pairNumber wire last first ∧
        ofStream wire host (stream ++ first :: behind) =
          samples ++ sample :: ofStream wire host behind) := by
  intro samples
  refine ⟨?_, ofStream_host wire .big .little stream, length_ofStream wire host stream,
    getElem?_ofStream wire host stream, encode_ofStream wire host stream,
    ofStream_encode wire host, ofStream_append_of_even, ?_⟩
  · funext other
    exact ofStream_host .big .little host other
  · intro odd last left first behind
    exact ⟨_, toInt_readPair wire host last first, ofStream_append_of_odd odd left first behind⟩

/-- The byte `0x80` left over behind a sample makes a negative one with the byte `0x01` that comes
first in what is joined; behind full pairs it stays alone. -/
theorem samples_match_stream_straddling :
    let pairs : List UInt8 := [0x7f, 0xff]
    let uneven : List UInt8 := [0x7f, 0xff, 0x80]
    pairs.length % 2 = 0 ∧ uneven.length % 2 = 1 ∧ uneven.getLast? = some 0x80 ∧
      ofStream .big .little (pairs ++ [0x80]) = [32767] ∧
      ofStream .big .little (uneven ++ 0x01 :: [0x00, 0x02]) = [32767, -32767, 2] := by
  intro pairs uneven
  obtain ⟨_, _, _, _, _, _, even, _⟩ := samples_match_stream .big .little pairs
  obtain ⟨_, _, _, _, _, _, _, odd⟩ := samples_match_stream .big .little uneven
  have full : pairs.length % 2 = 0 := by simp only [pairs, List.length_cons, List.length_nil]
  have single : uneven.length % 2 = 1 := by simp only [uneven, List.length_cons, List.length_nil]
  obtain ⟨sample, number, joined⟩ := odd single 0x80 rfl 0x01 [0x00, 0x02]
  have negative : sample = -32767 := Int16.toInt_inj.mp (number.trans (by decide))
  refine ⟨full, single, rfl, ?_, ?_⟩
  · rw [even full]
    decide
  · rw [joined, negative]
    decide

end Samples

end PcmLink
