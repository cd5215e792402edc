import PcmLink.Document.Layout
import PcmLink.Text.Numeral

/-!
# Dates and times of a document

A date, a time of day, or both with a letter or a space between them and perhaps an offset from
universal time. Only their form is checked: a month has its days, also in a leap year, a day has
twenty-four hours and a minute may have a leap second.
-/

namespace PcmLink.Document

open PcmLink.Text (Reader)

/-- A number of `count` digits between two bounds. -/
def field (count least greatest : Nat) : Reader Nat := fun text => do
  let (digits, rest) ← Text.exactly Char.isDigit count text
  let value ← (Text.readDigits 10 greatest 0 digits).toOption
  if least ≤ value then some (value, rest) else none

/-- Years with a twenty-ninth of February. -/
def isLeapYear (year : Nat) : Bool := year % 4 == 0 && (year % 100 != 0 || year % 400 == 0)

/-- The days of a month. -/
def daysOfMonth (year month : Nat) : Nat :=
  if month = 2 then (if isLeapYear year then 29 else 28)
  else if month = 4 ∨ month = 6 ∨ month = 9 ∨ month = 11 then 30
  else 31

/-- Take a mark. -/
def mark (wanted : Char → Bool) (text : List Char) : Option (List Char) :=
  (Text.one wanted text).map (·.2)

/-- A date. -/
def date : Reader Unit := fun text => do
  let (year, rest) ← field 4 0 9999 text
  let rest ← mark (· == '-') rest
  let (month, rest) ← field 2 1 12 rest
  let rest ← mark (· == '-') rest
  let (day, rest) ← field 2 1 31 rest
  if day ≤ daysOfMonth year month then some ((), rest) else none

/-- The fraction of a second. -/
def secondFraction : Reader Unit := fun text => do
  let rest ← mark (· == '.') text
  let rest ← mark Char.isDigit rest
  some ((), rest.dropWhile Char.isDigit)

/-- A time of day. -/
def time : Reader Unit := fun text => do
  let (_, rest) ← field 2 0 23 text
  let rest ← mark (· == ':') rest
  let (_, rest) ← field 2 0 59 rest
  let rest ← mark (· == ':') rest
  let (_, rest) ← field 2 0 60 rest
  some ((), (Text.optional secondFraction rest).2)

/-- An offset from universal time. -/
def offset : Reader Unit := fun text =>
  match mark (fun c => c == 'Z' || c == 'z') text with
  | some rest => some ((), rest)
  | none => do
    let rest ← mark (fun c => c == '+' || c == '-') text
    let (_, rest) ← field 2 0 23 rest
    let rest ← mark (· == ':') rest
    let (_, rest) ← field 2 0 59 rest
    some ((), rest)

/-- The time of a date and its offset. -/
def timeOfDate : Reader Unit := fun text => do
  let rest ← mark (fun c => c == 'T' || c == 't' || c == ' ') text
  let (_, rest) ← time rest
  some ((), (Text.optional offset rest).2)

/-- A date with its time, or a date, or a time. -/
def moment : Reader Unit := fun text =>
  match date text with
  | some (_, rest) => some ((), (Text.optional timeOfDate rest).2)
  | none => time text

end PcmLink.Document
