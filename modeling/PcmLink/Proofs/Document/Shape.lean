import PcmLink.Document.Shape
import PcmLink.Proofs.Address

/-!
# Addresses and protocol types in all their forms

An address is written as text and as bytes, a protocol type as text, as bytes and as a number. Each
is read back from every form of it. Bytes and numbers are forms of one value at most, and only those
that are read at all are; of texts there are several for each.
-/

namespace PcmLink

namespace Text

/-- Parts without separators are found again between those that join them. -/
theorem splitOnP_intercalate {isSeparator : Char → Bool} {separator : Char}
    (separates : isSeparator separator = true) {parts : List (List Char)} (filled : parts ≠ [])
    (unbroken : ∀ part ∈ parts, ∀ c ∈ part, isSeparator c = false) :
    ([separator].intercalate parts).splitOnP isSeparator = parts := by
  induction parts with
  | nil => exact absurd rfl filled
  | cons part parts ih =>
    obtain ⟨first, others⟩ := List.forall_mem_cons.mp unbroken
    cases parts with
    | nil => rw [List.intercalate_singleton, List.splitOnP_eq_singleton first]
    | cons next rest =>
      rw [List.intercalate_cons_cons, List.append_assoc, List.singleton_append,
        List.splitOnP_append_cons_of_forall_mem first separator separates,
        ih (List.cons_ne_nil next rest) others]

/-- The digits of a byte are read as the byte behind the value before them. -/
theorem readDigits_byteDigits {limit value : Nat} (byte : UInt8)
    (within : value * 256 + byte.toNat ≤ limit) (rest : List Char) :
    readDigits 16 limit value (Hex.byteDigits byte ++ rest) =
      readDigits 16 limit (value * 256 + byte.toNat) rest := by
  have bound := byte.toNat_lt
  have high := Hex.digit?_digitChar (byte.toNat / 16) (by omega)
  have low := Hex.digit?_digitChar (byte.toNat % 16) (by omega)
  have whole : (value * 16 + byte.toNat / 16) * 16 + byte.toNat % 16 =
      value * 256 + byte.toNat := by omega
  have first : ¬ limit < value * 16 + byte.toNat / 16 := by omega
  simp only [Hex.byteDigits, List.cons_append, List.nil_append, readDigits, high, low, whole,
    if_neg first, if_neg (Nat.not_lt.mpr within)]

end Text

/-- A refusal that is worded otherwise is a refusal all the same. -/
theorem mapError_eq_ok_iff {ε δ α : Type} {result : Except ε α} {word : ε → δ} {value : α} :
    result.mapError word = .ok value ↔ result = .ok value := by
  cases result with
  | error error => exact ⟨nofun, nofun⟩
  | ok other => rw [Except.mapError, Except.ok.injEq, Except.ok.injEq]

namespace Address

/-- A digit that is written is one that is read. -/
theorem hexDigit_digitChar {value : Nat} (small : value < 16) :
    HexDigit (Nat.digitChar value) value := ⟨small, .inl rfl⟩

/-- A digit is no separator. -/
theorem isSeparator_digitChar : ∀ value < 16, isSeparator (Nat.digitChar value) = false := by
  decide

/-- The two digits of an octet write it. -/
theorem writes_byteDigits (octet : UInt8) : Writes (Hex.byteDigits octet) octet.toNat := by
  have bound := octet.toNat_lt
  have whole : octet.toNat / 16 * 16 + octet.toNat % 16 = octet.toNat := by omega
  have high : HexDigit (Nat.digitChar (octet.toNat / 16)) _ := hexDigit_digitChar (by omega)
  have low : HexDigit (Nat.digitChar (octet.toNat % 16)) _ := hexDigit_digitChar (by omega)
  have writes := Writes.pair high low
  rwa [whole] at writes

/-- The digits of an octet are no separators. -/
theorem isSeparator_of_mem_byteDigits {octet : UInt8} {c : Char}
    (digit : c ∈ Hex.byteDigits octet) : isSeparator c = false := by
  have bound := octet.toNat_lt
  rw [Hex.byteDigits, List.mem_cons, List.mem_singleton] at digit
  rcases digit with rfl | rfl
  · exact isSeparator_digitChar _ (by omega)
  · exact isSeparator_digitChar _ (by omega)

/-- The components of the text of an address are the digits of its octets. -/
theorem splitOnP_text (address : Address) :
    address.text.toList.splitOnP isSeparator = address.octets.map Hex.byteDigits := by
  have components : (address.octets.map fun octet => Hex.text [octet]).map String.toList =
      address.octets.map Hex.byteDigits := by
    simp [Hex.text, Hex.encode]
  rw [text, String.toList_intercalate, components]
  apply Text.splitOnP_intercalate rfl
  · intro none
    have width := address.width
    rw [List.map_eq_nil_iff.mp none] at width
    contradiction
  · intro part found c digit
    obtain ⟨octet, _, rfl⟩ := List.mem_map.mp found
    exact isSeparator_of_mem_byteDigits digit

/-- An address is read back from its text. -/
theorem parse_text (address : Address) : parse address.text = .ok address := by
  rw [parse_eq_ok_iff_forall₂, splitOnP_text, List.forall₂_map_left_iff]
  exact List.forall₂_same.mpr fun octet _ => writes_byteDigits octet

/-- A text is read in readable form as it is read by itself. -/
theorem ofShape_text_eq_ok_iff {text : String} {address : Address} :
    ofShape (.text text) = .ok address ↔ parse text = .ok address := by
  rw [ofShape, mapError_eq_ok_iff]

/-- Bytes are read in compact form as the address that they are the form of. -/
theorem ofCompact_eq_ok_iff {bytes : List UInt8} {address : Address} :
    ofCompact bytes = .ok address ↔ address.compact = bytes := by
  rw [ofCompact, mapError_eq_ok_iff, ofBytes_eq_ok_iff]
  rfl

/-- Bytes are the octets of some address exactly if they are six. -/
theorem exists_octets_eq_iff {bytes : List UInt8} :
    (∃ address : Address, address.octets = bytes) ↔ bytes.length = 6 := by
  constructor
  · rintro ⟨address, rfl⟩
    exact address.width
  · intro width
    exact ⟨{ octets := bytes, width }, rfl⟩

end Address

namespace ProtocolType

/-- The digits of a protocol type are read as its number. -/
theorem readNumeral_bytes (type : ProtocolType) :
    Text.readNumeral 16 65535 (Hex.encode type.bytes) = .ok type.value.toNat := by
  have bound := type.value.toNat_lt
  let high := Octets.high16 type.value
  let low := Octets.low16 type.value
  have most := high.toNat_lt
  have number : high.toNat * 256 + low.toNat = type.value.toNat := by
    show (Octets.high16 type.value).toNat * 256 + (Octets.low16 type.value).toNat = _
    rw [Octets.high16, Octets.low16, UInt8.toNat_ofNat', UInt8.toNat_ofNat']
    omega
  have digits : Hex.encode type.bytes = Hex.byteDigits high ++ (Hex.byteDigits low ++ []) := rfl
  have unsigned : Nat.digitChar (high.toNat / 16) ≠ '+' := by
    intro same
    exact Text.not_isDigit_sign (high.toNat / 16) (by omega) (.inl same.symm)
  have read : Text.readNumeral 16 65535 (Hex.encode type.bytes) =
      Text.readDigits 16 65535 0 (Hex.encode type.bytes) := Text.readNumeral_of_ne_sign unsigned
  rw [read, digits, Text.readDigits_byteDigits high (by omega),
    Text.readDigits_byteDigits low (by omega), Text.readDigits_nil, Nat.zero_mul, Nat.zero_add,
    number]

/-- A protocol type is read back from its text. -/
theorem parse_text (type : ProtocolType) : parse type.text = .ok type := by
  have digits : digits type.text.toList = (16, Hex.encode type.bytes) := by
    simp only [text, Hex.text, String.toList_append, String.toList_ofList]
    rfl
  rw [parse, digits]
  dsimp only
  rw [readNumeral_bytes]
  dsimp only
  rw [UInt16.ofNat_toNat]

/-- A text is read in readable form as it is read by itself. -/
theorem ofShape_text_eq_ok_iff {text : String} {type : ProtocolType} :
    ofShape (.text text) = .ok type ↔ parse text = .ok type := by
  rw [ofShape, mapError_eq_ok_iff]

/-- A number of sixteen bits is that of the word made of it. -/
theorem toNat_ofNat_of_within {number : Int} (within : 0 ≤ number ∧ number ≤ 65535) :
    ((UInt16.ofNat number.toNat).toNat : Int) = number := by
  have small : number.toNat < UInt16.size := by
    show number.toNat < 65536
    omega
  rw [UInt16.toNat_ofNat_of_lt' small]
  omega

/-- A number is read as the protocol type that it is the number of. -/
theorem ofShape_integer_eq_ok_iff {number : Int} {type : ProtocolType} :
    ofShape (.integer number) = .ok type ↔ type.shape = .integer number := by
  have bound := type.value.toNat_lt
  rw [ofShape, shape, Shape.integer.injEq]
  by_cases within : 0 ≤ number ∧ number ≤ 65535
  · have value := toNat_ofNat_of_within within
    rw [if_pos within, Except.ok.injEq]
    constructor
    · rintro rfl
      exact value
    · intro same
      have equal : UInt16.ofNat number.toNat = type.value := UInt16.toNat_inj.mp (by omega)
      rw [equal]
  · rw [if_neg within]
    constructor
    · exact nofun
    · intro same
      omega

/-- A number is that of some protocol type exactly if it has sixteen bits. -/
theorem exists_shape_eq_iff {number : Int} :
    (∃ type : ProtocolType, type.shape = .integer number) ↔ 0 ≤ number ∧ number ≤ 65535 := by
  simp only [shape, Shape.integer.injEq]
  constructor
  · rintro ⟨type, rfl⟩
    have bound := type.value.toNat_lt
    omega
  · intro within
    exact ⟨⟨UInt16.ofNat number.toNat⟩, toNat_ofNat_of_within within⟩

end ProtocolType

/-- An address is read back from its text, from what it is stored as in readable and in compact form
and from its octets; a protocol type is from its text, from its two bytes and from the number that
it is stored as. Bytes are read as the address that has them for its octets, and as some address
exactly if they are six; a number is read as the protocol type that is stored as it, and as some
protocol type exactly if it has sixteen bits. A stored text is read as it is by itself. -/
theorem stored_forms_read_back (address : Address) (type : ProtocolType) (bytes : List UInt8)
    (text : String) (number : Int) :
    (Address.parse address.text = .ok address ∧ Address.ofShape address.shape = .ok address ∧
      Address.ofCompact address.compact = .ok address ∧
      Address.ofBytes address.octets = .ok address) ∧
    ((∃ read, Address.ofCompact bytes = .ok read) ↔ bytes.length = 6) ∧
    ((∃ read, Address.ofBytes bytes = .ok read) ↔ bytes.length = 6) ∧
    (∀ read, (Address.ofCompact bytes = .ok read ↔ read.octets = bytes) ∧
      (Address.ofBytes bytes = .ok read ↔ read.octets = bytes)) ∧
    (∀ read, Address.ofShape (.text text) = .ok read ↔ Address.parse text = .ok read) ∧
    (ProtocolType.parse type.text = .ok type ∧ ProtocolType.ofBytes type.bytes = .ok type ∧
      ProtocolType.ofFront type.bytes = type ∧ ProtocolType.ofShape type.shape = .ok type) ∧
    ((∃ read, ProtocolType.ofShape (.integer number) = .ok read) ↔
      0 ≤ number ∧ number ≤ 65535) ∧
    (∀ read, ProtocolType.ofShape (.integer number) = .ok read ↔ read.shape = .integer number) ∧
    ∀ read, ProtocolType.ofShape (.text text) = .ok read ↔ ProtocolType.parse text = .ok read := by
  have compact {read : Address} : Address.ofCompact bytes = .ok read ↔ read.octets = bytes :=
    Address.ofCompact_eq_ok_iff
  refine ⟨⟨address.parse_text, Address.ofShape_text_eq_ok_iff.mpr address.parse_text,
      Address.ofCompact_eq_ok_iff.mpr rfl, Address.ofBytes_eq_ok_iff.mpr rfl⟩, ?_, ?_,
    fun read => ⟨compact, Address.ofBytes_eq_ok_iff⟩, fun read => Address.ofShape_text_eq_ok_iff,
    ⟨type.parse_text, ProtocolType.ofBytes_eq_ok_iff.mpr rfl, ?_,
      ProtocolType.ofShape_integer_eq_ok_iff.mpr rfl⟩, ?_,
    fun read => ProtocolType.ofShape_integer_eq_ok_iff,
    fun read => ProtocolType.ofShape_text_eq_ok_iff⟩
  · simp only [compact]
    exact Address.exists_octets_eq_iff
  · simp only [Address.ofBytes_eq_ok_iff]
    exact Address.exists_octets_eq_iff
  · exact ProtocolType.eq_of_bytes (ProtocolType.bytes_ofFront (Nat.le_refl 2))
  · simp only [ProtocolType.ofShape_integer_eq_ok_iff]
    exact ProtocolType.exists_shape_eq_iff

end PcmLink
