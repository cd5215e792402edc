import Mathlib.Data.List.Forall2
import Mathlib.Data.List.Induction
import Mathlib.Data.Nat.Digits.Defs
import PcmLink.Octets.Hex

/-!
# Numerals and the numbers they write

Up to the radix sixteen the digits of a numeral are those that numbers are written with, in either
case. Digits are read one by one, each behind the value of those before it, as long as the value
stays within the limit; a sign is no digit. So a numeral is read exactly as the number that its
digits write, and any other is refused for the first thing wrong with it: a character that is no
digit, or a digit that makes the number too large, behind digits of a number that is not.
-/

namespace PcmLink.Text

/-- A character is the digit of a value, in either case. -/
def IsDigit (c : Char) (value : Nat) : Prop :=
  c = Nat.digitChar value ∨ c = (Nat.digitChar value).toUpper

instance (c : Char) (value : Nat) : Decidable (IsDigit c value) :=
  inferInstanceAs (Decidable (_ ∨ _))

variable {radix limit value result : Nat} {c : Char} {rest : List Char}

section Digits

/-- The digits of the values from ten on are the letters from `a` on. -/
theorem toNat_digitChar_of_ten_le :
    ∀ value < 16, 10 ≤ value → (Nat.digitChar value).toNat = 87 + value := by decide

/-- In the other case they are the letters from `A` on. -/
theorem toNat_toUpper_digitChar :
    ∀ value < 16, 10 ≤ value → (Nat.digitChar value).toUpper.toNat = 55 + value := by decide

/-- A digit of the other case is read as its value, too. -/
theorem digit?_toUpper : ∀ value < 16, digit? 16 (Nat.digitChar value).toUpper = some value := by
  decide

/-- A digit has a value in a radix exactly if the value is below the radix and is the digit's value
in any larger one. -/
theorem digit?_eq_some_iff_of_le {larger : Nat} (wide : radix ≤ larger) :
    digit? radix c = some value ↔ value < radix ∧ digit? larger c = some value := by
  unfold digit?
  dsimp only
  rw [Option.filter_eq_some_iff, Option.filter_eq_some_iff, decide_eq_true_eq, decide_eq_true_eq]
  constructor
  · rintro ⟨read, small⟩
    exact ⟨small, read, Nat.lt_of_lt_of_le small wide⟩
  · rintro ⟨small, read, _⟩
    exact ⟨read, small⟩

/-- What is read as a value is a digit of it. -/
theorem isDigit_of_digit? (read : digit? 16 c = some value) : IsDigit c value := by
  unfold digit? at read
  dsimp only at read
  rw [Option.filter_eq_some_iff, decide_eq_true_eq] at read
  obtain ⟨read, small⟩ := read
  split at read
  · rename_i range
    have low : 48 ≤ c.toNat := range.1
    have high : c.toNat ≤ 57 := range.2
    have place : c.toNat - 48 = value := Option.some.inj read
    apply Or.inl
    apply Char.toNat_inj.mp
    rw [Nat.toNat_digitChar_of_lt_ten (by omega)]
    omega
  · split at read
    · rename_i range
      have low : 97 ≤ c.toNat := range.1
      have place : c.toNat - 97 + 10 = value := Option.some.inj read
      apply Or.inl
      apply Char.toNat_inj.mp
      rw [toNat_digitChar_of_ten_le value small (by omega)]
      omega
    · split at read
      · rename_i range
        have low : 65 ≤ c.toNat := range.1
        have place : c.toNat - 65 + 10 = value := Option.some.inj read
        apply Or.inr
        apply Char.toNat_inj.mp
        rw [toNat_toUpper_digitChar value small (by omega)]
        omega
      · contradiction

/-- A character is read as a value exactly if it is a digit of the value and of the radix. -/
theorem digit?_eq_some_iff (hexadecimal : radix ≤ 16) :
    digit? radix c = some value ↔ value < radix ∧ IsDigit c value := by
  rw [digit?_eq_some_iff_of_le hexadecimal]
  apply and_congr_right
  intro small
  constructor
  · exact isDigit_of_digit?
  · rintro (rfl | rfl)
    · exact Hex.digit?_digitChar value (by omega)
    · exact digit?_toUpper value (by omega)

/-- A sign is no digit. -/
theorem not_isDigit_sign : ∀ value < 16, ¬ IsDigit '+' value := by decide

end Digits

/-- Where no digit is left the value is that of those before. -/
theorem readDigits_nil : readDigits radix limit value [] = .ok value := rfl

/-- Digits are read on behind a digit that stays within the limit. -/
theorem readDigits_cons_eq_ok_iff :
    readDigits radix limit value (c :: rest) = .ok result ↔
      ∃ digit, digit? radix c = some digit ∧ value * radix + digit ≤ limit ∧
        readDigits radix limit (value * radix + digit) rest = .ok result := by
  rw [readDigits]
  cases digit? radix c with
  | none =>
    constructor
    · intro read
      contradiction
    · rintro ⟨_, found, _⟩
      cases found
  | some digit =>
    dsimp only
    by_cases beyond : limit < value * radix + digit
    · rw [if_pos beyond]
      constructor
      · intro read
        contradiction
      · rintro ⟨_, found, within, _⟩
        cases found
        exact absurd beyond (Nat.not_lt.mpr within)
    · rw [if_neg beyond]
      constructor
      · exact fun read => ⟨digit, rfl, Nat.le_of_not_lt beyond, read⟩
      · rintro ⟨_, found, _, read⟩
        cases found
        exact read

/-- A numeral without a sign is its digits. -/
theorem readNumeral_of_ne_sign (unsigned : c ≠ '+') :
    readNumeral radix limit (c :: rest) = readDigits radix limit 0 (c :: rest) := by
  unfold readNumeral
  split
  · contradiction
  · rename_i alone
    exact absurd (List.cons.inj alone).1 unsigned
  · rename_i signed
    exact absurd (List.cons.inj signed).1 unsigned
  · rfl

/-- A character is a digit of the radix with a value. -/
def Digit (radix : Nat) (c : Char) (value : Nat) : Prop := value < radix ∧ IsDigit c value

/-- Digits of the radix write a number: it is made up of their values, from the last digit on. -/
def Writes (radix : Nat) (digits : List Char) (number : Nat) : Prop :=
  -- The lowest place comes first in the values, as the library has them.
  ∃ values, List.Forall₂ (Digit radix) digits.reverse values ∧ Nat.ofDigits radix values = number

/-- What is first wrong with digits that are read from left to right within a limit. -/
inductive Refuses (radix limit : Nat) : List Char → NumeralError → Prop where
  /-- A character that is no digit stands behind digits of a number within the limit. -/
  | invalidDigit {front back : List Char} {c : Char} {number : Nat}
      (written : Writes radix front number) (within : number ≤ limit)
      (strange : ∀ value, ¬ Digit radix c value) :
      Refuses radix limit (front ++ c :: back) .invalidDigit
  /-- A digit behind digits of a number within the limit makes it one beyond. -/
  | tooLarge {front back : List Char} {c : Char} {number larger : Nat}
      (written : Writes radix front number) (within : number ≤ limit)
      (further : Writes radix (front ++ [c]) larger) (beyond : limit < larger) :
      Refuses radix limit (front ++ c :: back) .tooLarge

/-- The text without a plus sign at its front. -/
def unsigned : List Char → List Char
  | '+' :: digits => digits
  | text => text

section Numbers

variable {number other : Nat} {front digits text : List Char} {error : NumeralError}

/-- No digits write zero. -/
theorem writes_nil : Writes radix [] number ↔ number = 0 := by
  constructor
  · rintro ⟨values, none, rfl⟩
    rw [List.forall₂_nil_left_iff.mp none, Nat.ofDigits_nil]
  · rintro rfl
    exact ⟨[], .nil, rfl⟩

/-- A further digit moves the number of those before it by a place and adds its value. -/
theorem writes_concat :
    Writes radix (front ++ [c]) number ↔
      ∃ before value, Writes radix front before ∧ Digit radix c value ∧
        before * radix + value = number := by
  unfold Writes
  rw [List.reverse_append, List.reverse_singleton, List.singleton_append]
  constructor
  · rintro ⟨_, written, rfl⟩
    obtain ⟨value, values, digit, before, rfl⟩ := List.forall₂_cons_left_iff.mp written
    refine ⟨_, value, ⟨values, before, rfl⟩, digit, ?_⟩
    rw [Nat.ofDigits_cons, Nat.add_comm, Nat.mul_comm]
  · rintro ⟨_, value, ⟨values, before, rfl⟩, digit, rfl⟩
    refine ⟨value :: values, .cons digit before, ?_⟩
    rw [Nat.ofDigits_cons, Nat.add_comm, Nat.mul_comm]

/-- What does not begin with a plus sign is left as it is. -/
theorem unsigned_of_ne_sign (unmarked : c ≠ '+') : unsigned (c :: rest) = c :: rest := by
  unfold unsigned
  split
  · rename_i signed
    exact absurd (List.cons.inj signed).1 unmarked
  · rfl

/-- Without a sign nothing is left exactly of nothing and of a sign that stands alone. -/
theorem unsigned_eq_nil_iff : unsigned text = [] ↔ text = [] ∨ text = ['+'] := by
  unfold unsigned
  split
  · simp
  · rename_i unmarked
    constructor
    · exact .inl
    · rintro (none | rfl)
      · exact none
      · exact absurd rfl (unmarked [])

/-- Where there are no digits, nothing is wrong with any. -/
theorem not_refuses_nil : ¬ Refuses radix limit [] error := by
  intro refused
  generalize none : ([] : List Char) = digits at refused
  cases refused with
  | invalidDigit => exact List.append_ne_nil_of_right_ne_nil _ (List.cons_ne_nil _ _) none.symm
  | tooLarge => exact List.append_ne_nil_of_right_ne_nil _ (List.cons_ne_nil _ _) none.symm

/-- What is wrong with digits is never that there are none. -/
theorem not_refuses_empty : ¬ Refuses radix limit digits .empty := nofun

/-- A numeral is its digits without a sign, if there are any. -/
theorem readNumeral_eq (text : List Char) :
    readNumeral radix limit text =
      if text = [] then .error .empty
      else if text = ['+'] then .error .invalidDigit
      else readDigits radix limit 0 (unsigned text) := by
  match text with
  | [] => rfl
  | c :: rest =>
    rw [if_neg (List.cons_ne_nil c rest)]
    by_cases sign : c = '+'
    · subst sign
      cases rest <;> rfl
    · have other : c :: rest ≠ ['+'] := fun same => sign (List.cons.inj same).1
      rw [if_neg other, readNumeral_of_ne_sign sign, unsigned_of_ne_sign sign]

variable (hexadecimal : radix ≤ 16)
include hexadecimal

/-- A character has one value as a digit. -/
theorem Digit.unique (digit : Digit radix c value) (again : Digit radix c other) :
    value = other := by
  have read := (digit?_eq_some_iff hexadecimal).mpr digit
  rw [(digit?_eq_some_iff hexadecimal).mpr again] at read
  exact (Option.some.inj read).symm

/-- Digits write one number. -/
theorem Writes.unique (written : Writes radix digits number) (again : Writes radix digits other) :
    number = other := by
  induction digits using List.reverseRec generalizing number other with
  | nil => rw [writes_nil.mp written, writes_nil.mp again]
  | append_singleton front c ih =>
    obtain ⟨_, _, before, digit, rfl⟩ := writes_concat.mp written
    obtain ⟨_, _, likewise, same, rfl⟩ := writes_concat.mp again
    rw [ih before likewise, digit.unique hexadecimal same]

/-- A zero in front of digits does not count. -/
theorem writes_zero_cons (positive : 0 < radix) :
    Writes radix ('0' :: digits) number ↔ Writes radix digits number := by
  induction digits using List.reverseRec generalizing number with
  | nil =>
    have zero : Digit radix '0' 0 := ⟨positive, .inl rfl⟩
    rw [← List.nil_append ['0'], writes_concat, writes_nil]
    constructor
    · rintro ⟨before, value, none, digit, rfl⟩
      rw [writes_nil.mp none, digit.unique hexadecimal zero, Nat.zero_mul]
    · rintro rfl
      exact ⟨0, 0, writes_nil.mpr rfl, zero, Nat.zero_mul radix⟩
  | append_singleton front c ih =>
    rw [← List.cons_append, writes_concat, writes_concat]
    simp only [ih]

/-- Zeros in front of digits do not count. -/
theorem writes_zeros_append (positive : 0 < radix) (zeros : Nat) :
    Writes radix (List.replicate zeros '0' ++ digits) number ↔ Writes radix digits number := by
  induction zeros with
  | zero => rfl
  | succ zeros ih =>
    rw [List.replicate_succ, List.cons_append, writes_zero_cons hexadecimal positive, ih]

/-- A digit is read on behind the value before it, unless it exceeds the limit. -/
theorem readDigits_cons_of_digit (digit : Digit radix c value) :
    readDigits radix limit number (c :: rest) =
      if limit < number * radix + value then .error .tooLarge
      else readDigits radix limit (number * radix + value) rest := by
  rw [readDigits, (digit?_eq_some_iff hexadecimal).mpr digit]

/-- A character that is no digit is refused, whatever the value before it. -/
theorem readDigits_cons_of_strange (strange : ∀ value, ¬ Digit radix c value) :
    readDigits radix limit number (c :: rest) = .error .invalidDigit := by
  have none : digit? radix c = none := Option.eq_none_iff_forall_ne_some.mpr fun value read =>
    strange value ((digit?_eq_some_iff hexadecimal).mp read)
  rw [readDigits, none]

/-- What stands behind digits of a number within the limit is read behind that number. -/
theorem readDigits_append (written : Writes radix front number) (within : number ≤ limit)
    (rest : List Char) :
    readDigits radix limit 0 (front ++ rest) = readDigits radix limit number rest := by
  -- From the end, for the number before the last digit is within the limit if the whole one is.
  induction front using List.reverseRec generalizing number rest with
  | nil => rw [writes_nil.mp written, List.nil_append]
  | append_singleton front c ih =>
    obtain ⟨before, value, shorter, digit, rfl⟩ := writes_concat.mp written
    have positive : 0 < radix := Nat.lt_of_le_of_lt (Nat.zero_le value) digit.1
    have less : before ≤ before * radix := Nat.le_mul_of_pos_right before positive
    rw [List.append_assoc, List.singleton_append, ih shorter (by omega),
      readDigits_cons_of_digit hexadecimal digit, if_neg (Nat.not_lt.mpr within)]

/-- Digits in which something is wrong are refused for what is so first. -/
theorem Refuses.readDigits_eq (refused : Refuses radix limit digits error) :
    readDigits radix limit 0 digits = .error error := by
  cases refused with
  | invalidDigit written within strange =>
    rw [readDigits_append hexadecimal written within,
      readDigits_cons_of_strange hexadecimal strange]
  | tooLarge written within further beyond =>
    obtain ⟨before, value, shorter, digit, rfl⟩ := writes_concat.mp further
    obtain rfl := written.unique hexadecimal shorter
    rw [readDigits_append hexadecimal written within, readDigits_cons_of_digit hexadecimal digit,
      if_pos beyond]

/-- Behind digits of a number within the limit the others are read as part of such a number, or
refused for what is first wrong. -/
theorem readDigits_cases (written : Writes radix front number) (within : number ≤ limit)
    (rest : List Char) :
    (∃ result, readDigits radix limit number rest = .ok result ∧
      Writes radix (front ++ rest) result ∧ result ≤ limit) ∨
    ∃ error, readDigits radix limit number rest = .error error ∧
      Refuses radix limit (front ++ rest) error := by
  -- What has been read moves to the front, which keeps writing a number within the limit.
  induction rest generalizing front number with
  | nil =>
    rw [List.append_nil]
    exact .inl ⟨number, readDigits_nil, written, within⟩
  | cons c rest ih =>
    by_cases found : ∃ value, Digit radix c value
    · obtain ⟨value, digit⟩ := found
      have further := writes_concat.mpr ⟨number, value, written, digit, rfl⟩
      rw [readDigits_cons_of_digit hexadecimal digit]
      by_cases beyond : limit < number * radix + value
      · exact .inr ⟨.tooLarge, if_pos beyond, .tooLarge written within further beyond⟩
      · rw [if_neg beyond]
        have later := ih further (Nat.not_lt.mp beyond)
        rwa [List.append_assoc, List.singleton_append] at later
    · have strange := not_exists.mp found
      exact .inr ⟨.invalidDigit, readDigits_cons_of_strange hexadecimal strange,
        .invalidDigit written within strange⟩

/-- Digits are read exactly as the number that they write, if it is within the limit. -/
theorem readDigits_eq_ok_iff :
    readDigits radix limit 0 digits = .ok number ↔ Writes radix digits number ∧ number ≤ limit := by
  constructor
  · intro read
    rcases readDigits_cases hexadecimal (writes_nil.mpr rfl) (Nat.zero_le limit) digits with
      ⟨result, same, written⟩ | ⟨error, same, _⟩
    · cases read.symm.trans same
      exact written
    · cases read.symm.trans same
  · rintro ⟨written, within⟩
    rw [← List.append_nil digits, readDigits_append hexadecimal written within, readDigits_nil]

/-- Digits are refused exactly for what is first wrong with them. -/
theorem readDigits_eq_error_iff :
    readDigits radix limit 0 digits = .error error ↔ Refuses radix limit digits error := by
  constructor
  · intro read
    rcases readDigits_cases hexadecimal (writes_nil.mpr rfl) (Nat.zero_le limit) digits with
      ⟨result, same, _⟩ | ⟨other, same, refused⟩
    · cases read.symm.trans same
    · cases read.symm.trans same
      exact refused
  · exact Refuses.readDigits_eq hexadecimal

/-- A numeral is read exactly as the number that its digits write, if there are any and the number
is within the limit. -/
theorem readNumeral_eq_ok_iff :
    readNumeral radix limit text = .ok number ↔
      unsigned text ≠ [] ∧ Writes radix (unsigned text) number ∧ number ≤ limit := by
  rw [readNumeral_eq, ne_eq, unsigned_eq_nil_iff, ← readDigits_eq_ok_iff hexadecimal]
  by_cases none : text = []
  · simp [none]
  · by_cases alone : text = ['+']
    · simp [alone]
    · simp [none, alone]

/-- A numeral is refused exactly because there is none, because a sign stands alone, or for what is
first wrong with its digits. -/
theorem readNumeral_eq_error_iff :
    readNumeral radix limit text = .error error ↔
      text = [] ∧ error = .empty ∨ text = ['+'] ∧ error = .invalidDigit ∨
        Refuses radix limit (unsigned text) error := by
  rw [readNumeral_eq]
  by_cases none : text = []
  · have bare : unsigned text = [] := unsigned_eq_nil_iff.mpr (.inl none)
    rw [bare, if_pos none]
    simp [none, not_refuses_nil, eq_comm]
  · by_cases alone : text = ['+']
    · have bare : unsigned text = [] := unsigned_eq_nil_iff.mpr (.inr alone)
      rw [bare, if_neg none, if_pos alone]
      simp [alone, not_refuses_nil, eq_comm]
    · rw [if_neg none, if_neg alone, readDigits_eq_error_iff hexadecimal]
      simp [none, alone]

end Numbers

end PcmLink.Text
