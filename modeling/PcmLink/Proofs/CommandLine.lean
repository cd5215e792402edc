import PcmLink.CommandLine.Record
import PcmLink.Proofs.Text.Numeral

/-!
# Numbers on the command line

An option that wants a machine word takes the decimal digits of any machine word, for a number is
read back from its digits whenever the limit admits it.
-/

namespace PcmLink

namespace Text

/-- A decimal digit has a value below ten. -/
theorem digit?_of_isDigit {digit : Char} (decimal : digit.isDigit = true) :
    digit? 10 digit = some (digit.toNat - '0'.toNat) := by
  have bounds : '0' ≤ digit ∧ digit ≤ '9' := by
    simpa [Char.isDigit, Char.le_def] using decimal
  have most : digit.toNat ≤ '9'.toNat := bounds.2
  have nine : '9'.toNat = 57 := rfl
  have zero : '0'.toNat = 48 := rfl
  rw [digit?, if_pos bounds, Option.filter_some, if_pos]
  exact decide_eq_true (by omega)

/-- Decimal digits write the number that the library makes of them. -/
theorem writes_ofDigitChars {digits : List Char}
    (decimal : ∀ digit ∈ digits, digit.isDigit = true) :
    Writes 10 digits (Nat.ofDigitChars 10 digits 0) := by
  induction digits using List.reverseRec with
  | nil => exact writes_nil.mpr Nat.ofDigitChars_nil
  | append_singleton front digit ih =>
    obtain ⟨others, last⟩ := List.forall_mem_append.mp decimal
    have value := digit?_of_isDigit (last digit List.mem_cons_self)
    refine writes_concat.mpr ⟨_, _, ih others, (digit?_eq_some_iff (by decide)).mp value, ?_⟩
    rw [Nat.ofDigitChars_append, Nat.ofDigitChars_cons, Nat.ofDigitChars_nil, Nat.mul_comm]

/-- A number within the limit is read back from its digits. -/
theorem readNumeral_toDigits {limit number : Nat} (within : number ≤ limit) :
    readNumeral 10 limit (Nat.toDigits 10 number) = .ok number := by
  have decimal (digit : Char) (among : digit ∈ Nat.toDigits 10 number) : digit.isDigit = true :=
    Nat.isDigit_of_mem_toDigits (by decide) (by decide) among
  have value : Nat.ofDigitChars 10 (Nat.toDigits 10 number) 0 = number :=
    Nat.ofDigitChars_ten_toDigits
  have written := writes_ofDigitChars decimal
  rw [value] at written
  rw [readNumeral_eq_ok_iff (by decide)]
  cases digits : Nat.toDigits 10 number with
  | nil => exact absurd digits Nat.toDigits_ne_nil
  | cons first later =>
    rw [digits] at written decimal
    have unmarked : first ≠ '+' := by
      rintro rfl
      exact absurd (decimal '+' List.mem_cons_self) (by decide)
    rw [unsigned_of_ne_sign unmarked]
    exact ⟨List.cons_ne_nil first later, written, within⟩

end Text

/-- An option that wants a value takes the next argument if that can be one. -/
theorem CommandLine.readFrom_value {σ : Type} {rules : List (Rule σ)} {progress after : Progress σ}
    {argument value : String} {rule : Rule σ} {store : String → σ → Option σ}
    (wants : take rules progress argument = .wants progress rule store)
    (accepted : isValue value = true) (stored : progress.store? rule store value = some after)
    (rest : List String) :
    readFrom rules progress (argument :: value :: rest) = readFrom rules after rest := by
  rw [readFrom.eq_def]
  simp [wants, accepted, stored]

/-- What begins with a digit can be the value of an option. -/
theorem CommandLine.isValue_of_isDigit {value : String}
    (decimal : ∀ digit ∈ value.toList, digit.isDigit = true) : isValue value = true := by
  unfold isValue
  split
  · rename_i signed
    rw [signed] at decimal
    exact absurd (decimal '-' List.mem_cons_self) (by decide)
  · rfl

/-- The command line takes every machine word for the length of the trailer. -/
theorem Record.read_trailerLength (trailerLength : UInt64) :
    CommandLine.read rules [] {} ["--trailer-len", toString trailerLength.toNat] =
      .read { trailerLength := some trailerLength.toNat } := by
  have bound : trailerLength.toNat ≤ UInt64.size - 1 := Nat.le_sub_one_of_lt trailerLength.toNat_lt
  have text : (toString trailerLength.toNat).toList = Nat.toDigits 10 trailerLength.toNat := by simp
  have accepted : CommandLine.isValue (toString trailerLength.toNat) = true := by
    apply CommandLine.isValue_of_isDigit
    rw [text]
    exact fun digit => Nat.isDigit_of_mem_toDigits (by decide) (by decide)
  have number := Text.readNumeral_toDigits bound
  rw [← text] at number
  have done : CommandLine.readFrom rules { arguments := {} }
      ["--trailer-len", toString trailerLength.toNat] =
        .done { arguments := { trailerLength := some trailerLength.toNat }
                given := ["trailer-len"] } := by
    apply CommandLine.readFrom_value rfl accepted
    dsimp only [CommandLine.Progress.store?]
    rw [number]
    rfl
  rw [CommandLine.read, done]
  rfl

end PcmLink
