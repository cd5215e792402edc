import Mathlib.Data.List.Forall2
import PcmLink.Proofs.Frame
import PcmLink.Proofs.Text.Numeral

/-!
# Texts of addresses

A text is an address exactly if its components are six and each writes an octet, which then are the
octets of the address in order. Of any other text the first thing wrong is reported: a component
among the first six that writes no octet, before their number is looked at; then too many
components, whatever those after the sixth are; then too few.
-/

namespace PcmLink

/-- The parts between separators are those of the library's split. -/
theorem Text.split_eq_splitOnP (isSeparator : Char → Bool) (text : List Char) :
    split isSeparator text = text.splitOnP isSeparator := by
  induction text with
  | nil => rfl
  | cons c text ih =>
    rw [split, ih, List.splitOnP_cons_eq_if_modifyHead]
    split
    · rfl
    · cases parts : text.splitOnP isSeparator with
      | nil => exact absurd parts (List.splitOnP_ne_nil isSeparator text)
      | cons part parts => rfl

/-- A text has the bytes of its first character and those of the others. -/
theorem Text.utf8ByteSize_cons (c : Char) (text : List Char) :
    (String.ofList (c :: text)).utf8ByteSize = c.utf8Size + (String.ofList text).utf8ByteSize := by
  rw [String.ofList_cons, String.utf8ByteSize_append, String.utf8ByteSize_singleton]

/-- A text has no fewer bytes than characters. -/
theorem Text.length_le_utf8ByteSize (text : List Char) :
    text.length ≤ (String.ofList text).utf8ByteSize := by
  induction text with
  | nil => exact Nat.zero_le _
  | cons c text ih =>
    have positive := c.utf8Size_pos
    rw [Text.utf8ByteSize_cons, List.length_cons]
    omega

namespace Address

/-- A character is the hexadecimal digit of a value, in either case. -/
def HexDigit (c : Char) (value : Nat) : Prop := value < 16 ∧ Text.IsDigit c value

/-- A component writes an octet. -/
inductive Writes : List Char → Nat → Prop where
  /-- One digit does. -/
  | digit {c : Char} {value : Nat} (digit : HexDigit c value) : Writes [c] value
  /-- One digit behind a plus sign does. -/
  | signed {c : Char} {value : Nat} (digit : HexDigit c value) : Writes ['+', c] value
  /-- Two digits do. -/
  | pair {c d : Char} {high low : Nat} (first : HexDigit c high) (second : HexDigit d low) :
    Writes [c, d] (high * 16 + low)

/-- A digit is a single byte. -/
theorem HexDigit.utf8Size {c : Char} {value : Nat} (digit : HexDigit c value) : c.utf8Size = 1 := by
  have single : ∀ value < 16, (Nat.digitChar value).utf8Size = 1 ∧
      (Nat.digitChar value).toUpper.utf8Size = 1 := by decide
  obtain ⟨small, rfl | rfl⟩ := digit
  · exact (single value small).1
  · exact (single value small).2

/-- A component that writes an octet has one or two characters. -/
theorem Writes.length_eq {part : List Char} {value : Nat} (writes : Writes part value) :
    part.length = 1 ∨ part.length = 2 := by
  cases writes with
  | digit => exact .inl rfl
  | signed => exact .inr rfl
  | pair => exact .inr rfl

/-- A component that writes an octet has two characters at most. -/
theorem Writes.length_le {part : List Char} {value : Nat} (writes : Writes part value) :
    part.length ≤ 2 := by
  have width := writes.length_eq
  omega

/-- A component that writes an octet has a byte for each character. -/
theorem Writes.utf8ByteSize {part : List Char} {value : Nat} (writes : Writes part value) :
    (String.ofList part).utf8ByteSize = part.length := by
  cases writes with
  | digit digit =>
    rw [Text.utf8ByteSize_cons, digit.utf8Size]
    rfl
  | signed digit =>
    rw [Text.utf8ByteSize_cons, Text.utf8ByteSize_cons, digit.utf8Size]
    rfl
  | pair first second =>
    rw [Text.utf8ByteSize_cons, Text.utf8ByteSize_cons, first.utf8Size, second.utf8Size]
    rfl

section Components

variable {part : List Char} {value : Nat} {c d : Char}

/-- A digit alone is read as its value. -/
theorem readDigits_one_iff :
    Text.readDigits 16 255 0 [c] = .ok value ↔ HexDigit c value := by
  simp only [Text.readDigits_cons_eq_ok_iff, Text.readDigits_nil,
    Text.digit?_eq_some_iff (Nat.le_refl 16), Nat.zero_mul, Nat.zero_add, Except.ok.injEq]
  constructor
  · rintro ⟨_, digit, _, rfl⟩
    exact digit
  · intro digit
    have small := digit.1
    exact ⟨value, digit, by omega, rfl⟩

/-- Two digits are read as sixteen times the value of the first and that of the second. -/
theorem readDigits_two_iff :
    Text.readDigits 16 255 0 [c, d] = .ok value ↔
      ∃ high low, HexDigit c high ∧ HexDigit d low ∧ value = high * 16 + low := by
  simp only [Text.readDigits_cons_eq_ok_iff, Text.readDigits_nil,
    Text.digit?_eq_some_iff (Nat.le_refl 16), Nat.zero_mul, Nat.zero_add, Except.ok.injEq]
  constructor
  · rintro ⟨high, first, _, low, second, _, rfl⟩
    exact ⟨high, low, first, second, rfl⟩
  · rintro ⟨high, low, first, second, rfl⟩
    have large := first.1
    have small := second.1
    exact ⟨high, first, by omega, low, second, by omega, rfl⟩

/-- A sign is no hexadecimal digit. -/
theorem not_hexDigit_sign : ¬ HexDigit '+' value := fun digit =>
  Text.not_isDigit_sign value digit.1 digit.2

/-- A numeral of at most two characters is read exactly if it writes an octet. -/
theorem readNumeral_iff_writes (short : part.length ≤ 2) :
    Text.readNumeral 16 255 part = .ok value ↔ Writes part value := by
  match part, short with
  | [], _ => exact ⟨nofun, nofun⟩
  | [c], _ =>
    by_cases sign : c = '+'
    · subst sign
      constructor
      · exact nofun
      · rintro ⟨digit⟩
        exact absurd digit not_hexDigit_sign
    · rw [Text.readNumeral_of_ne_sign sign, readDigits_one_iff]
      constructor
      · exact .digit
      · rintro ⟨digit⟩
        exact digit
  | [c, d], _ =>
    by_cases sign : c = '+'
    · subst sign
      show Text.readDigits 16 255 0 [d] = .ok value ↔ Writes ['+', d] value
      rw [readDigits_one_iff]
      constructor
      · exact .signed
      · intro writes
        cases writes with
        | signed digit => exact digit
        | pair first => exact absurd first not_hexDigit_sign
    · rw [Text.readNumeral_of_ne_sign sign, readDigits_two_iff]
      constructor
      · rintro ⟨high, low, first, second, rfl⟩
        exact .pair first second
      · intro writes
        cases writes with
        | signed => exact absurd rfl sign
        | pair first second => exact ⟨_, _, first, second, rfl⟩

/-- A component is read as an octet exactly if it writes it. -/
theorem component?_eq_some_iff {octet : UInt8} :
    component? part = some octet ↔ Writes part octet.toNat := by
  constructor
  · intro found
    unfold component? at found
    split at found
    · rename_i short
      split at found
      · rename_i value read
        have small : value < UInt8.size := Nat.lt_succ_of_le (Text.readNumeral_le read)
        obtain rfl := Option.some.inj found
        rw [UInt8.toNat_ofNat_of_lt' small]
        exact (readNumeral_iff_writes short).mp read
      · contradiction
    · contradiction
  · intro writes
    rw [component?, if_pos writes.length_le, (readNumeral_iff_writes writes.length_le).mpr writes]
    exact congrArg some UInt8.ofNat_toNat

/-- An octet is a value that a component can write. -/
theorem Writes.lt (writes : Writes part value) : value < 256 :=
  Nat.lt_succ_of_le (Text.readNumeral_le ((readNumeral_iff_writes writes.length_le).mpr writes))

/-- A component is no octet exactly if it writes none. -/
theorem component?_eq_none_iff : component? part = none ↔ ∀ value, ¬ Writes part value := by
  rw [Option.eq_none_iff_forall_ne_some]
  constructor
  · intro none value writes
    have same : (UInt8.ofNat value).toNat = value := UInt8.toNat_ofNat_of_lt' writes.lt
    exact none (UInt8.ofNat value) (component?_eq_some_iff.mpr (same.symm ▸ writes))
  · intro none octet found
    exact none octet.toNat (component?_eq_some_iff.mp found)

/-- A component that writes an octet is one or two bytes long, and is read as a numeral. -/
theorem writes_iff :
    Writes part value ↔
      1 ≤ (String.ofList part).utf8ByteSize ∧ (String.ofList part).utf8ByteSize ≤ 2 ∧
        Text.readNumeral 16 255 part = .ok value := by
  constructor
  · intro writes
    have width := writes.length_eq
    rw [writes.utf8ByteSize]
    exact ⟨by omega, by omega, (readNumeral_iff_writes writes.length_le).mpr writes⟩
  · rintro ⟨_, small, read⟩
    have short := Nat.le_trans (Text.length_le_utf8ByteSize part) small
    exact (readNumeral_iff_writes short).mp read

end Components

/-- Components are read as far as they are wanted, and after that their number is looked at. -/
theorem readComponents_eq (room : Nat) (parts : List (List Char)) :
    readComponents room parts =
      match (parts.take room).mapM component? with
      | none => .error .invalidComponent
      | some octets =>
        if room < parts.length then .error .tooManyComponents
        else if parts.length < room then .error .tooFewComponents
        else .ok octets := by
  induction room generalizing parts with
  | zero => cases parts <;> rfl
  | succ room ih =>
    cases parts with
    | nil => rfl
    | cons part parts =>
      rw [readComponents, List.take_succ_cons, List.mapM_cons]
      cases component? part with
      | none => rfl
      | some octet =>
        dsimp only
        rw [ih, List.length_cons]
        cases (parts.take room).mapM component? with
        | none => rfl
        | some octets =>
          simp only [Nat.add_lt_add_iff_right, Option.bind_eq_bind, Option.bind_some]
          split
          · rfl
          · split <;> rfl

/-- Components are octets exactly if each of them writes its octet. -/
theorem mapM_component?_eq_some_iff {parts : List (List Char)} {octets : List UInt8} :
    parts.mapM component? = some octets ↔
      List.Forall₂ (fun part octet => Writes part octet.toNat) parts octets := by
  simp only [← component?_eq_some_iff]
  induction parts generalizing octets with
  | nil =>
    rw [List.forall₂_nil_left_iff, List.mapM_nil]
    exact Option.some_inj.trans eq_comm
  | cons part parts ih =>
    simp only [List.mapM_cons, List.forall₂_cons_left_iff, ← ih, Option.bind_eq_bind,
      Option.bind_eq_some_iff, Option.pure_def, Option.some.injEq]
    constructor
    · rintro ⟨octet, first, later, rest, rfl⟩
      exact ⟨octet, later, first, rest, rfl⟩
    · rintro ⟨octet, later, first, rest, rfl⟩
      exact ⟨octet, first, later, rest, rfl⟩

/-- Components are no octets exactly if one of them writes none. -/
theorem mapM_component?_eq_none_iff {parts : List (List Char)} :
    parts.mapM component? = none ↔ ∃ part ∈ parts, ∀ value, ¬ Writes part value := by
  simp only [← component?_eq_none_iff]
  induction parts with
  | nil => simp
  | cons part parts ih =>
    rw [List.mapM_cons, List.exists_mem_cons_iff, ← ih]
    cases component? part with
    | none => simp
    | some octet => cases parts.mapM component? <;> simp

/-- Components are all octets exactly if each of them writes one. -/
theorem exists_mapM_component?_iff {parts : List (List Char)} :
    (∃ octets, parts.mapM component? = some octets) ↔
      ∀ part ∈ parts, ∃ value, Writes part value := by
  rw [← Option.ne_none_iff_exists', ne_eq, mapM_component?_eq_none_iff]
  simp only [not_exists, not_and, not_forall, not_not]

section Verdicts

variable {room : Nat} {parts : List (List Char)}

/-- A component is what is wrong exactly if one of those that are wanted writes no octet. -/
theorem readComponents_invalid_iff :
    readComponents room parts = .error .invalidComponent ↔
      ∃ part ∈ parts.take room, ∀ value, ¬ Writes part value := by
  rw [readComponents_eq, ← mapM_component?_eq_none_iff]
  cases (parts.take room).mapM component? with
  | none => simp
  | some octets =>
    dsimp only
    split
    · simp
    · split <;> simp

/-- There are too many components exactly if those that are wanted are octets and more follow. -/
theorem readComponents_tooMany_iff :
    readComponents room parts = .error .tooManyComponents ↔
      (∀ part ∈ parts.take room, ∃ value, Writes part value) ∧ room < parts.length := by
  rw [readComponents_eq, ← exists_mapM_component?_iff]
  cases (parts.take room).mapM component? with
  | none => simp
  | some octets =>
    dsimp only
    split
    · rename_i many
      simp [many]
    · rename_i many
      split <;> simp [many]

/-- There are too few components exactly if all are octets and fewer than are wanted. -/
theorem readComponents_tooFew_iff :
    readComponents room parts = .error .tooFewComponents ↔
      (∀ part ∈ parts.take room, ∃ value, Writes part value) ∧ parts.length < room := by
  rw [readComponents_eq, ← exists_mapM_component?_iff]
  cases (parts.take room).mapM component? with
  | none => simp
  | some octets =>
    dsimp only
    split
    · rename_i many
      simp [Nat.le_of_lt many]
    · split
      · rename_i few
        simp [few]
      · rename_i few
        simp [few]

/-- Components are read exactly if they are as many as are wanted, as the octets they write. -/
theorem readComponents_ok_iff {octets : List UInt8} :
    readComponents room parts = .ok octets ↔
      parts.length = room ∧ List.Forall₂ (fun part octet => Writes part octet.toNat) parts octets := by
  rw [readComponents_eq, ← mapM_component?_eq_some_iff]
  constructor
  · intro read
    cases found : (parts.take room).mapM component? with
    | none =>
      rw [found] at read
      contradiction
    | some others =>
      rw [found] at read
      dsimp only at read
      split at read
      · contradiction
      · split at read
        · contradiction
        · have number : parts.length = room := by omega
          obtain rfl := Except.ok.inj read
          rw [← number, List.take_length] at found
          exact ⟨number, found⟩
  · rintro ⟨rfl, found⟩
    rw [List.take_length, found]
    dsimp only
    rw [if_neg (Nat.lt_irrefl _), if_neg (Nat.lt_irrefl _)]

end Verdicts

/-- A text is read as its components are. -/
theorem map_octets_parse (text : String) :
    (parse text).map octets = readComponents 6 (text.toList.splitOnP isSeparator) := by
  rw [← Text.split_eq_splitOnP]
  unfold parse
  split
  · rename_i error refused
    exact refused.symm
  · rename_i octets read
    exact read.symm

/-- A text is an address exactly if its components are read as the octets of the address. -/
theorem parse_eq_ok_iff {text : String} {address : Address} :
    parse text = .ok address ↔
      readComponents 6 (text.toList.splitOnP isSeparator) = .ok address.octets := by
  rw [← map_octets_parse]
  cases parse text with
  | error error => exact ⟨nofun, nofun⟩
  | ok other =>
    constructor
    · rintro same
      rw [same]
      rfl
    · intro same
      rw [eq_of_octets (Except.ok.inj same)]

/-- The components of an address write its octets. -/
theorem parse_eq_ok_iff_forall₂ {text : String} {address : Address} :
    parse text = .ok address ↔
      List.Forall₂ (fun part octet => Writes part octet.toNat)
        (text.toList.splitOnP isSeparator) address.octets := by
  rw [parse_eq_ok_iff, readComponents_ok_iff]
  constructor
  · exact And.right
  · intro written
    exact ⟨written.length_eq.trans address.width, written⟩

/-- A text is some address exactly if its components are six octets. -/
theorem exists_parse_iff {text : String} :
    (∃ address, parse text = .ok address) ↔
      (∀ part ∈ text.toList.splitOnP isSeparator, ∃ value, Writes part value) ∧
        (text.toList.splitOnP isSeparator).length = 6 := by
  simp only [parse_eq_ok_iff_forall₂, ← exists_mapM_component?_iff, mapM_component?_eq_some_iff]
  constructor
  · rintro ⟨address, written⟩
    exact ⟨⟨address.octets, written⟩, written.length_eq.trans address.width⟩
  · rintro ⟨⟨octets, written⟩, six⟩
    exact ⟨{ octets, width := written.length_eq.symm.trans six }, written⟩

/-- A text is refused for what its components are refused for. -/
theorem parse_eq_error_iff {text : String} {error : ParseError} :
    parse text = .error error ↔
      readComponents 6 (text.toList.splitOnP isSeparator) = .error error := by
  rw [← map_octets_parse]
  cases parse text with
  | error other => rw [Except.map, Except.error.injEq, Except.error.injEq]
  | ok address => exact ⟨nofun, nofun⟩

/-- A text is an address exactly if its components, between colons and dashes, are six and each
writes an octet; these are the octets of the address in order. It is refused for a component exactly
if one of the first six writes none, and else for their number: exactly if they are more than six,
whatever those after the sixth are, or fewer. A component writes an octet exactly if it is one or
two bytes long and is read as a hexadecimal numeral. -/
theorem parse_follows_components (text : String) :
    let parts := text.toList.splitOnP isSeparator
    (∀ part value, Writes part value ↔
      1 ≤ (String.ofList part).utf8ByteSize ∧ (String.ofList part).utf8ByteSize ≤ 2 ∧
        Text.readNumeral 16 255 part = .ok value) ∧
    (parse text = .error .invalidComponent ↔
      ∃ part ∈ parts.take 6, ∀ value, ¬ Writes part value) ∧
    (parse text = .error .tooManyComponents ↔
      (∀ part ∈ parts.take 6, ∃ value, Writes part value) ∧ 6 < parts.length) ∧
    (parse text = .error .tooFewComponents ↔
      (∀ part ∈ parts.take 6, ∃ value, Writes part value) ∧ parts.length < 6) ∧
    ((∃ address, parse text = .ok address) ↔
      (∀ part ∈ parts, ∃ value, Writes part value) ∧ parts.length = 6) ∧
    ∀ address, parse text = .ok address ↔
      List.Forall₂ (fun part octet => Writes part octet.toNat) parts address.octets := by
  intro parts
  refine ⟨fun _ _ => writes_iff, ?_, ?_, ?_, ?_, fun address => ?_⟩
  · rw [parse_eq_error_iff, readComponents_invalid_iff]
  · rw [parse_eq_error_iff, readComponents_tooMany_iff]
  · rw [parse_eq_error_iff, readComponents_tooFew_iff]
  · exact exists_parse_iff
  · exact parse_eq_ok_iff_forall₂

example : parse "0-+1:a:BC:d:" = .error .invalidComponent := by rfl

example : parse "0-+1:a:BC:d:e:zz" = .error .tooManyComponents := by rfl

end Address

end PcmLink
