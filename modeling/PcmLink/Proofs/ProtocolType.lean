import PcmLink.ProtocolType
import PcmLink.Proofs.Text.Numeral

/-!
# Texts of protocol types

A text is a protocol type exactly if it is a numeral of a number of sixteen bits: a hexadecimal one
behind `0x` or `0X`, or else a decimal one. Any other text is refused for what is first wrong with
its numeral.
-/

namespace PcmLink.ProtocolType

section Parsing

variable {text : String} {radix number : Nat} {numeral : List Char}

/-- What is read of a text are hexadecimal digits behind a mark, or else decimal ones and all of
it. -/
theorem marked_of_digits {text : List Char} (split : digits text = (radix, numeral)) :
    (text = '0' :: 'x' :: numeral ∨ text = '0' :: 'X' :: numeral) ∧ radix = 16 ∨
      (∀ rest, text ≠ '0' :: 'x' :: rest ∧ text ≠ '0' :: 'X' :: rest) ∧
        numeral = text ∧ radix = 10 := by
  unfold digits at split
  split at split
  · obtain ⟨rfl, rfl⟩ := Prod.mk.inj split
    exact .inl ⟨.inl rfl, rfl⟩
  · obtain ⟨rfl, rfl⟩ := Prod.mk.inj split
    exact .inl ⟨.inr rfl, rfl⟩
  · rename_i lower upper
    obtain ⟨rfl, rfl⟩ := Prod.mk.inj split
    exact .inr ⟨fun rest => ⟨lower rest, upper rest⟩, rfl, rfl⟩

/-- A text is a protocol type exactly if its digits are read as the number of the type. -/
theorem exists_parse_iff (split : digits text.toList = (radix, numeral)) :
    (∃ type, parse text = .ok type ∧ type.value.toNat = number) ↔
      Text.readNumeral radix 65535 numeral = .ok number := by
  rw [parse, split]
  dsimp only
  cases read : Text.readNumeral radix 65535 numeral with
  | error cause =>
    constructor
    · rintro ⟨_, none, _⟩
      contradiction
    · intro none
      contradiction
  | ok value =>
    have small : value < UInt16.size := Nat.lt_succ_of_le (Text.readNumeral_le read)
    have same : (UInt16.ofNat value).toNat = value := UInt16.toNat_ofNat_of_lt' small
    simp [same]

/-- A text is refused for what its digits are refused for. -/
theorem parse_eq_error_iff (split : digits text.toList = (radix, numeral))
    {cause : Text.NumeralError} :
    parse text = .error ⟨cause⟩ ↔ Text.readNumeral radix 65535 numeral = .error cause := by
  rw [parse, split]
  dsimp only
  cases Text.readNumeral radix 65535 numeral with
  | error other => rw [Except.error.injEq, Except.error.injEq, ParseError.mk.injEq]
  | ok value => exact ⟨nofun, nofun⟩

end Parsing

/-- A text is the protocol type of a number exactly if its digits, behind an optional plus sign,
write the number and it has sixteen bits; zeros in front of the digits do not count. They are
hexadecimal digits behind `0x` or `0X`, and else decimal ones. Any other text is refused because
there is nothing to read, because a sign stands alone, or for the first place at which a digit is
missing or makes the number too large. -/
theorem parse_follows_digits (text : String) :
    let (radix, numeral) := digits text.toList
    let written := Text.unsigned numeral
    ((text.toList = '0' :: 'x' :: numeral ∨ text.toList = '0' :: 'X' :: numeral) ∧ radix = 16 ∨
      (∀ rest, text.toList ≠ '0' :: 'x' :: rest ∧ text.toList ≠ '0' :: 'X' :: rest) ∧
        numeral = text.toList ∧ radix = 10) ∧
    (∀ number, (∃ type, parse text = .ok type ∧ type.value.toNat = number) ↔
      written ≠ [] ∧ Text.Writes radix written number ∧ number ≤ 65535) ∧
    (∀ zeros number, Text.Writes radix (List.replicate zeros '0' ++ written) number ↔
      Text.Writes radix written number) ∧
    (parse text = .error ⟨.empty⟩ ↔ numeral = []) ∧
    (parse text = .error ⟨.invalidDigit⟩ ↔
      numeral = ['+'] ∨ Text.Refuses radix 65535 written .invalidDigit) ∧
    (parse text = .error ⟨.tooLarge⟩ ↔ Text.Refuses radix 65535 written .tooLarge) := by
  rcases split : digits text.toList with ⟨radix, numeral⟩
  dsimp only
  have marked := marked_of_digits split
  have range : 0 < radix ∧ radix ≤ 16 := by
    rcases marked with ⟨_, rfl⟩ | ⟨_, _, rfl⟩
    · decide
    · decide
  obtain ⟨positive, hexadecimal⟩ := range
  have refused (cause : Text.NumeralError) : parse text = .error ⟨cause⟩ ↔ _ :=
    (parse_eq_error_iff split).trans (Text.readNumeral_eq_error_iff hexadecimal)
  refine ⟨marked, fun number => ?_, fun zeros number => ?_, ?_, ?_, ?_⟩
  · rw [exists_parse_iff split, Text.readNumeral_eq_ok_iff hexadecimal]
  · exact Text.writes_zeros_append hexadecimal positive zeros
  · simp [refused, Text.not_refuses_empty]
  · simp [refused]
  · simp [refused]

example : parse "0x+000000fFfF" = .ok ⟨65535⟩ := by rfl

-- Any digit would exceed the limit there, but a character that is none is reported as such.
example : parse "65535-" = .error ⟨.invalidDigit⟩ := by rfl

example : parse "65536-" = .error ⟨.tooLarge⟩ := by rfl

end PcmLink.ProtocolType
