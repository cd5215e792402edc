/-!
# Numerals

Reading an unsigned number written in a radix up to 36: an optional plus sign, then one or more
digits of either case, any number of leading zeros among them. Digits are taken left to right, and
at each position a character that is no digit is reported before a value above the limit.
-/

namespace PcmLink.Text

/-- The value of a digit of the radix, letters of either case counting on from ten. -/
def digit? (radix : Nat) (c : Char) : Option Nat :=
  let value? :=
    if '0' ≤ c ∧ c ≤ '9' then some (c.toNat - '0'.toNat)
    else if 'a' ≤ c ∧ c ≤ 'z' then some (c.toNat - 'a'.toNat + 10)
    else if 'A' ≤ c ∧ c ≤ 'Z' then some (c.toNat - 'A'.toNat + 10)
    else none
  value?.filter (· < radix)

/-- Why a text is no numeral. -/
inductive NumeralError where
  /-- There is no text. -/
  | empty
  /-- A character is no digit of the radix; a sign that stands alone counts. -/
  | invalidDigit
  /-- The value exceeds the limit. -/
  | tooLarge
  deriving DecidableEq, Repr

/-- The wording of a refusal. -/
def NumeralError.message : NumeralError → String
  | .empty => "cannot parse integer from empty string"
  | .invalidDigit => "invalid digit found in string"
  | .tooLarge => "number too large to fit in target type"

/-- The value of digits that follow digits worth `value`. -/
def readDigits (radix limit : Nat) : Nat → List Char → Except NumeralError Nat
  | value, [] => .ok value
  | value, c :: rest =>
    match digit? radix c with
    | none => .error .invalidDigit
    | some d =>
      if limit < value * radix + d then .error .tooLarge
      else readDigits radix limit (value * radix + d) rest

/-- The number that a text writes in the radix, at most `limit`. -/
def readNumeral (radix limit : Nat) : List Char → Except NumeralError Nat
  | [] => .error .empty
  | ['+'] => .error .invalidDigit
  | '+' :: digits => readDigits radix limit 0 digits
  | digits => readDigits radix limit 0 digits

/-- A value read from digits is within the limit, if the value before them is. -/
theorem readDigits_le {radix limit value result : Nat} {text : List Char}
    (within : value ≤ limit) (read : readDigits radix limit value text = .ok result) :
    result ≤ limit := by
  induction text generalizing value with
  | nil =>
    simp only [readDigits, Except.ok.injEq] at read
    omega
  | cons c rest ih =>
    simp only [readDigits] at read
    split at read
    · contradiction
    · split at read
      · contradiction
      · exact ih (by omega) read

/-- A number read from a numeral is within the limit. -/
theorem readNumeral_le {radix limit result : Nat} {text : List Char}
    (read : readNumeral radix limit text = .ok result) : result ≤ limit := by
  unfold readNumeral at read
  split at read
  · contradiction
  · contradiction
  · exact readDigits_le (Nat.zero_le _) read
  · exact readDigits_le (Nat.zero_le _) read

end PcmLink.Text
