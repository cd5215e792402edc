import PcmLink.Document.Layout
import PcmLink.Real.Rounding
import PcmLink.Text.Numeral

/-!
# Numbers of a document

Digits may be grouped by single underscores between two of them. A whole number is decimal, with
an optional sign and without leading zeros, or is written in another radix after a mark and without
a sign; it fits sixty-four bits. A number with a fraction or an exponent is rounded to the nearest
one of the binary format; one that becomes infinite is refused unless it is negative. The names of
the infinite numbers and of no number are numbers too.
-/

namespace PcmLink.Document

open PcmLink.Text (Reader)

/-- The digits that follow a digit, without the underscores between them. -/
def moreDigits (isDigit : Char → Bool) : List Char → List Char × List Char
  | '_' :: c :: rest =>
    if isDigit c then
      let (digits, rest) := moreDigits isDigit rest
      (c :: digits, rest)
    else ([], '_' :: c :: rest)
  | c :: rest =>
    if isDigit c then
      let (digits, rest) := moreDigits isDigit rest
      (c :: digits, rest)
    else ([], c :: rest)
  | [] => ([], [])

/-- One digit or more. -/
def digitRun (isDigit : Char → Bool) : Reader (List Char) := fun text => do
  let (first, rest) ← Text.one isDigit text
  let (more, rest) := moreDigits isDigit rest
  some (first :: more, rest)

/-- The number that digits of a radix write. -/
def digitsValue (radix : Nat) (digits : List Char) : Nat :=
  digits.foldl (fun value c => value * radix + (Text.digit? radix c).getD 0) 0

/-- An optional sign; true for a minus. -/
def sign : List Char → Bool × List Char
  | '-' :: rest => (true, rest)
  | '+' :: rest => (false, rest)
  | text => (false, text)

/-- Decimal digits without leading zeros. -/
def decimal : Reader (List Char)
  | '0' :: rest => some (['0'], rest)
  | text => digitRun Char.isDigit text

/-- A whole number that fits sixty-four bits with a sign. -/
def fitting? (negative : Bool) (magnitude : Nat) : Option Int :=
  if magnitude < UInt64.size / 2 ∨ (negative ∧ magnitude = UInt64.size / 2) then
    some (if negative then -magnitude else magnitude)
  else none

/-- A whole number after the mark of its radix. -/
def marked (radix : Nat) : Reader Int := fun text => do
  let (digits, rest) ← digitRun (fun c => (Text.digit? radix c).isSome) text
  let value ← fitting? false (digitsValue radix digits)
  some (value, rest)

/-- Read a whole number. -/
def integer : Reader Int
  | '0' :: 'x' :: rest => marked 16 rest
  | '0' :: 'o' :: rest => marked 8 rest
  | '0' :: 'b' :: rest => marked 2 rest
  | text => do
    let (negative, rest) := sign text
    let (digits, rest) ← decimal rest
    let value ← fitting? negative (digitsValue 10 digits)
    some (value, rest)

/-- The digits of a fraction after its point. -/
def fraction : Reader (List Char)
  | '.' :: rest => digitRun Char.isDigit rest
  | _ => none

/-- An exponent after its mark. -/
def exponent : Reader Int := fun text => do
  let (_, rest) ← Text.one (fun c => c == 'e' || c == 'E') text
  let (negative, rest) := sign rest
  let (digits, rest) ← digitRun Char.isDigit rest
  let magnitude : Int := digitsValue 10 digits
  some (if negative then -magnitude else magnitude, rest)

/-- A number written with a fraction, an exponent or both. -/
def fractional : Reader Binary64 := fun text => do
  let (negative, rest) := sign text
  let (whole, rest) ← decimal rest
  let (places, rest) := Text.optional fraction rest
  let (power, rest) := Text.optional exponent rest
  if places.isNone ∧ power.isNone then none
  else
    let places := places.getD []
    let digits := digitsValue 10 (whole ++ places)
    let value := Binary64.ofDecimal negative digits (power.getD 0 - places.length)
    if value = .infinite false then none else some (value, rest)

/-- A number written by name. -/
def named : Reader Binary64 := fun text =>
  let (negative, rest) := sign text
  match rest with
  | 'i' :: 'n' :: 'f' :: rest => some (.infinite negative, rest)
  | 'n' :: 'a' :: 'n' :: rest => some (.nan, rest)
  | _ => none

/-- Read a number of the binary format. -/
def real : Reader Binary64 := fun text => fractional text <|> named text

end PcmLink.Document
