import PcmLink.Frame

/-!
# Frames and their bytes

A frame is read back from its bytes, and bytes that hold a whole header are those of the frame that
is read from them. So frames and such bytes are the same thing in two forms. Raw header fields make
a frame exactly if each has its width; otherwise the first that has another one is refused, in the
order of the header.
-/

namespace PcmLink

namespace Address

/-- Addresses of the same octets are the same. -/
theorem eq_of_octets {left right : Address} (same : left.octets = right.octets) : left = right := by
  cases left
  cases right
  cases same
  rfl

/-- The octets of the address at the front of bytes are the first six of them. -/
theorem octets_ofFront {raw : List UInt8} (long : 6 ≤ raw.length) :
    (ofFront raw).octets = raw.take 6 :=
  List.take_append_of_le_length long

/-- Bytes are the address that they are the octets of. -/
theorem ofBytes_eq_ok_iff {bytes : List UInt8} {address : Address} :
    ofBytes bytes = .ok address ↔ address.octets = bytes := by
  constructor
  · intro made
    unfold ofBytes at made
    split at made
    · obtain rfl := Except.ok.inj made
      rfl
    · contradiction
  · rintro rfl
    exact dif_pos address.width

/-- Bytes that are not six are refused with their number. -/
theorem ofBytes_of_length_ne {bytes : List UInt8} (misfit : bytes.length ≠ 6) :
    ofBytes bytes = .error { expected := 6, actual := bytes.length } :=
  dif_neg misfit

end Address

namespace ProtocolType

/-- The bytes of the type at the front of bytes are the first two of them. -/
theorem bytes_ofFront {raw : List UInt8} (long : 2 ≤ raw.length) :
    (ofFront raw).bytes = raw.take 2 := by
  match raw, long with
  | first :: second :: rest, _ => simp [ofFront, bytes, Octets.encode16, Octets.decode16]

/-- Types of the same bytes are the same. -/
theorem eq_of_bytes {left right : ProtocolType} (same : left.bytes = right.bytes) :
    left = right := by
  simp only [bytes, Octets.encode16, List.cons.injEq, and_true] at same
  have value : left.value = right.value := by
    rw [← Octets.word16_high16_low16 left.value, same.1, same.2, Octets.word16_high16_low16]
  cases left
  cases right
  rw [ProtocolType.mk.injEq]
  exact value

/-- Two bytes are the type that is written as them. -/
theorem ofBytes_eq_ok_iff {raw : List UInt8} {type : ProtocolType} :
    ofBytes raw = .ok type ↔ type.bytes = raw := by
  constructor
  · intro made
    unfold ofBytes at made
    split at made
    · obtain rfl := Except.ok.inj made
      simp [bytes, Octets.encode16, Octets.decode16]
    · contradiction
  · rintro rfl
    simp [ofBytes, bytes, Octets.encode16, Octets.decode16]

/-- Bytes that are not two are refused with their number. -/
theorem ofBytes_of_length_ne {raw : List UInt8} (misfit : raw.length ≠ 2) :
    ofBytes raw = .error { expected := 2, actual := raw.length } := by
  unfold ofBytes
  split
  · exact absurd rfl misfit
  · rfl

end ProtocolType

namespace Frame

section Bytes

/-- A frame is a header and its payload. -/
theorem length_bytes (frame : Frame) : frame.bytes.length = 14 + frame.payload.length := by
  have type : frame.protocolType.bytes.length = 2 := rfl
  simp only [bytes, List.length_append, frame.destination.width, frame.source.width, type]

/-- Frames of the same fields are the same. -/
theorem eq_of_fields {left right : Frame}
    (destination : left.destination.octets = right.destination.octets)
    (source : left.source.octets = right.source.octets)
    (protocolType : left.protocolType.bytes = right.protocolType.bytes)
    (payload : left.payload = right.payload) : left = right := by
  cases left
  cases right
  rw [Frame.mk.injEq]
  exact ⟨Address.eq_of_octets destination, Address.eq_of_octets source,
    ProtocolType.eq_of_bytes protocolType, payload⟩

/-- Frames of the same bytes are the same. -/
theorem eq_of_bytes {left right : Frame} (same : left.bytes = right.bytes) : left = right := by
  -- The widths of the header fields are fixed, so the bytes are equal field by field.
  simp only [bytes, List.append_assoc] at same
  obtain ⟨destination, same⟩ :=
    List.append_inj same (left.destination.width.trans right.destination.width.symm)
  obtain ⟨source, same⟩ := List.append_inj same (left.source.width.trans right.source.width.symm)
  obtain ⟨type, payload⟩ := List.append_inj same rfl
  exact eq_of_fields destination source type payload

/-- Bytes that hold a header are those of the frame they are viewed as. -/
theorem bytes_view {raw : List UInt8} (long : 14 ≤ raw.length) : (view raw).bytes = raw := by
  have destination : (view raw).destination.octets = raw.take 6 :=
    Address.octets_ofFront (by omega)
  have source : (view raw).source.octets = (raw.drop 6).take 6 :=
    Address.octets_ofFront (by rw [List.length_drop]; omega)
  have type : (view raw).protocolType.bytes = (raw.drop 12).take 2 :=
    ProtocolType.bytes_ofFront (by rw [List.length_drop]; omega)
  have payload : (view raw).payload = (raw.drop 12).drop 2 := by
    rw [List.drop_drop]
    rfl
  have behind : raw.drop 12 = (raw.drop 6).drop 6 := by rw [List.drop_drop]
  rw [bytes, destination, source, type, payload, List.append_assoc, List.take_append_drop, behind,
    List.append_assoc, List.take_append_drop, List.take_append_drop]

/-- The bytes of a frame are viewed as the frame. -/
theorem view_bytes (frame : Frame) : view frame.bytes = frame := by
  have long : 14 ≤ frame.bytes.length := by
    rw [length_bytes]
    omega
  exact eq_of_bytes (bytes_view long)

/-- Bytes hold the frame whose bytes they are. -/
theorem ofBytes_eq_ok_iff {raw : List UInt8} {frame : Frame} :
    ofBytes raw = .ok frame ↔ frame.bytes = raw := by
  constructor
  · intro held
    unfold ofBytes at held
    split at held
    · contradiction
    · rename_i long
      obtain rfl := Except.ok.inj held
      exact bytes_view (Nat.le_of_not_lt long)
  · rintro rfl
    have long : ¬ frame.bytes.length < headerWidth := by
      rw [length_bytes, headerWidth]
      omega
    rw [ofBytes, if_neg long, view_bytes]

/-- Bytes hold no frame exactly if they are fewer than those of a header. -/
theorem ofBytes_eq_error_iff {raw : List UInt8} {error : FrameError} :
    ofBytes raw = .error error ↔ raw.length < 14 ∧ error = .tooShort raw.length 14 := by
  by_cases short : raw.length < 14
  · have refused : ofBytes raw = .error (.tooShort raw.length 14) := if_pos short
    simp only [refused, Except.error.injEq, short, true_and, eq_comm]
  · have held : ofBytes raw = .ok (view raw) := if_neg short
    simp only [held, reduceCtorEq, short, false_and]

end Bytes

section Fields

/-- A header field as it is handed over: some bytes for a part of the header that has a width. -/
structure RawField where
  /-- The name under which the field is refused. -/
  name : String
  /-- How many bytes it takes. -/
  width : Nat
  /-- The bytes that there are. -/
  bytes : List UInt8

/-- What is wrong with a field whose bytes do not have its width. -/
def RawField.refusal (field : RawField) : FrameError :=
  .fieldWidth field.name { expected := field.width, actual := field.bytes.length }

/-- The refusal of the first field whose bytes do not have its width. -/
def firstMisfit? (fields : List RawField) : Option FrameError :=
  (fields.find? fun field => field.bytes.length != field.width).map RawField.refusal

/-- The fields of a header in its order. -/
def headerFields (destination source protocolType : List UInt8) : List RawField :=
  [{ name := "destination", width := 6, bytes := destination },
    { name := "source", width := 6, bytes := source },
    { name := "protocol type", width := 2, bytes := protocolType }]

/-- A field is looked at only if those before it have their widths. -/
theorem firstMisfit?_cons (field : RawField) (fields : List RawField) :
    firstMisfit? (field :: fields) =
      if field.bytes.length = field.width then firstMisfit? fields else some field.refusal := by
  by_cases fits : field.bytes.length = field.width
  · rw [if_pos fits, firstMisfit?, List.find?_cons_of_neg (by simp [fits]), firstMisfit?]
  · rw [if_neg fits, firstMisfit?, List.find?_cons_of_pos (by simp [fits]), Option.map_some]

/-- No field is refused exactly if each has its width. -/
theorem firstMisfit?_eq_none_iff {fields : List RawField} :
    firstMisfit? fields = none ↔ ∀ field ∈ fields, field.bytes.length = field.width := by
  simp [firstMisfit?]

variable {destination source protocolType payload : List UInt8}

/-- Raw fields make the frame that they are the fields of. -/
theorem ofFields_eq_ok_iff {frame : Frame} :
    ofFields destination source protocolType payload = .ok frame ↔
      frame.destination.octets = destination ∧ frame.source.octets = source ∧
        frame.protocolType.bytes = protocolType ∧ frame.payload = payload := by
  constructor
  · intro made
    unfold ofFields at made
    cases first : Address.ofBytes destination with
    | error width => rw [first] at made; contradiction
    | ok receiver =>
      cases second : Address.ofBytes source with
      | error width => rw [first, second] at made; contradiction
      | ok sender =>
        cases third : ProtocolType.ofBytes protocolType with
        | error width => rw [first, second, third] at made; contradiction
        | ok type =>
          rw [first, second, third] at made
          obtain rfl := Except.ok.inj made
          exact ⟨Address.ofBytes_eq_ok_iff.mp first, Address.ofBytes_eq_ok_iff.mp second,
            ProtocolType.ofBytes_eq_ok_iff.mp third, rfl⟩
  · rintro ⟨rfl, rfl, rfl, rfl⟩
    rw [ofFields, Address.ofBytes_eq_ok_iff.mpr rfl, Address.ofBytes_eq_ok_iff.mpr rfl,
      ProtocolType.ofBytes_eq_ok_iff.mpr rfl]
    rfl

/-- The fields of a header have their widths. -/
theorem headerFields_fit_iff :
    firstMisfit? (headerFields destination source protocolType) = none ↔
      destination.length = 6 ∧ source.length = 6 ∧ protocolType.length = 2 := by
  simp [firstMisfit?_eq_none_iff, headerFields]

/-- Raw fields that each have their width make a frame. -/
theorem exists_ofFields
    (fit : firstMisfit? (headerFields destination source protocolType) = none) :
    ∃ frame, ofFields destination source protocolType payload = .ok frame := by
  obtain ⟨first, second, third⟩ := headerFields_fit_iff.mp fit
  have type : (ProtocolType.ofFront protocolType).bytes = protocolType := by
    rw [ProtocolType.bytes_ofFront (Nat.le_of_eq third.symm), ← third, List.take_length]
  let frame : Frame := {
    destination := { octets := destination, width := first }
    source := { octets := source, width := second }
    protocolType := .ofFront protocolType
    payload }
  exact ⟨frame, ofFields_eq_ok_iff.mpr ⟨rfl, rfl, type, rfl⟩⟩

/-- Raw fields are refused for the first of them that does not have its width. -/
theorem ofFields_of_misfit {error : FrameError}
    (misfit : firstMisfit? (headerFields destination source protocolType) = some error) :
    ofFields destination source protocolType payload = .error error := by
  simp only [headerFields, firstMisfit?_cons] at misfit
  split at misfit
  · rename_i first
    have receiver := Address.ofBytes_eq_ok_iff.mpr (rfl : (Address.mk destination first).octets = _)
    split at misfit
    · rename_i second
      have sender := Address.ofBytes_eq_ok_iff.mpr (rfl : (Address.mk source second).octets = _)
      split at misfit
      · contradiction
      · rename_i third
        obtain rfl := Option.some.inj misfit
        rw [ofFields, receiver, sender, ProtocolType.ofBytes_of_length_ne third]
        rfl
    · rename_i second
      obtain rfl := Option.some.inj misfit
      rw [ofFields, receiver, Address.ofBytes_of_length_ne second]
      rfl
  · rename_i first
    obtain rfl := Option.some.inj misfit
    rw [ofFields, Address.ofBytes_of_length_ne first]
    rfl

/-- What raw fields are refused for is the first of them that does not have its width. -/
theorem ofFields_eq_error_iff {error : FrameError} :
    ofFields destination source protocolType payload = .error error ↔
      firstMisfit? (headerFields destination source protocolType) = some error := by
  constructor
  · intro refused
    cases misfit : firstMisfit? (headerFields destination source protocolType) with
    | some other =>
      rw [ofFields_of_misfit misfit] at refused
      rw [Except.error.inj refused]
    | none =>
      obtain ⟨frame, made⟩ := exists_ofFields misfit
      cases refused.symm.trans made
  · exact ofFields_of_misfit

end Fields

/-- Raw header fields make no frame exactly if one of them does not have its width, and are refused
for the first that does not. The frame that they make otherwise is held by its own bytes, with the
same fields and payload. Bytes hold no frame exactly if they are fewer than fourteen, and are
refused with their number. From the fields of the frame that they hold otherwise the same bytes are
made again. -/
theorem frames_match_bytes (destination source protocolType payload raw : List UInt8) :
    let made := ofFields destination source protocolType payload
    let held := ofBytes raw
    ((∃ error, made = .error error) ↔
      destination.length ≠ 6 ∨ source.length ≠ 6 ∨ protocolType.length ≠ 2) ∧
    (∀ error, made = .error error ↔
      firstMisfit? (headerFields destination source protocolType) = some error) ∧
    (∀ frame, made = .ok frame ↔
      ofBytes frame.bytes = .ok frame ∧
        frame.destination.octets = destination ∧ frame.source.octets = source ∧
        frame.protocolType.bytes = protocolType ∧ frame.payload = payload) ∧
    (∀ error, held = .error error ↔ raw.length < 14 ∧ error = .tooShort raw.length 14) ∧
    (∀ frame, held = .ok frame ↔
      frame.bytes = raw ∧
        ofFields frame.destination.octets frame.source.octets frame.protocolType.bytes
          frame.payload = .ok frame) := by
  intro made held
  refine ⟨?_, fun error => ofFields_eq_error_iff, fun frame => ?_,
    fun error => ofBytes_eq_error_iff, fun frame => ?_⟩
  · have misfits : (∃ error, made = .error error) ↔
        firstMisfit? (headerFields destination source protocolType) ≠ none := by
      rw [Option.ne_none_iff_exists']
      exact exists_congr fun error => ofFields_eq_error_iff
    rw [misfits, ne_eq, headerFields_fit_iff]
    omega
  · have back : ofBytes frame.bytes = .ok frame := ofBytes_eq_ok_iff.mpr rfl
    rw [ofFields_eq_ok_iff]
    exact ⟨fun fields => ⟨back, fields⟩, fun found => found.2⟩
  · have again : ofFields frame.destination.octets frame.source.octets frame.protocolType.bytes
        frame.payload = .ok frame := ofFields_eq_ok_iff.mpr ⟨rfl, rfl, rfl, rfl⟩
    rw [ofBytes_eq_ok_iff]
    exact ⟨fun same => ⟨same, again⟩, fun found => found.1⟩

example :
    ofFields [1, 2, 3, 4, 5, 6] [1, 2, 3, 4, 5] [8] [] =
      .error (.fieldWidth "source" { expected := 6, actual := 5 }) := by rfl

end Frame

end PcmLink
