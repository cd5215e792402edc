/-!
# Reading at the front of a text

A reader takes what it reads from the front of a text and hands back the text after it, or refuses
the text. Repeated readers are bounded by a count that their callers take from the length of the
text; every reader that is repeated takes at least one character, so the bound is never met.
-/

namespace PcmLink.Text

/-- A reader at the front of a text. -/
abbrev Reader (α : Type) := List Char → Option (α × List Char)

/-- Take one character that satisfies `wanted`. -/
def one (wanted : Char → Bool) : Reader Char
  | c :: rest => if wanted c then some (c, rest) else none
  | [] => none

/-- Take exactly `count` characters that satisfy `wanted`. -/
def exactly (wanted : Char → Bool) : Nat → Reader (List Char)
  | 0, text => some ([], text)
  | count + 1, text => do
    let (c, rest) ← one wanted text
    let (more, rest) ← exactly wanted count rest
    some (c :: more, rest)

/-- Read, or leave the text as it is. -/
def optional {α : Type} (reader : Reader α) (text : List Char) : Option α × List Char :=
  match reader text with
  | some (value, rest) => (some value, rest)
  | none => (none, text)

/-- Read until nothing more can be read, at most `bound` times. -/
def many {α : Type} (reader : Reader α) : Nat → List Char → List α × List Char
  | 0, text => ([], text)
  | bound + 1, text =>
    match reader text with
    | none => ([], text)
    | some (value, rest) =>
      let (values, rest) := many reader bound rest
      (value :: values, rest)

/-- Read values with a character between them; a separator with no value after it is left. -/
def separated {α : Type} (reader : Reader α) (separator : Char) (text : List Char) :
    List α × List Char :=
  match reader text with
  | none => ([], text)
  | some (first, rest) =>
    let next : Reader α := fun text => do
      let (_, rest) ← one (· == separator) text
      reader rest
    let (values, rest) := many next rest.length rest
    (first :: values, rest)

/-- Read a whole text piece by piece, with at most `bound` pieces. -/
def whole {α : Type} (reader : Reader α) : Nat → List Char → Option (List α)
  | _, [] => some []
  | 0, _ :: _ => none
  | bound + 1, text => do
    let (value, rest) ← reader text
    let values ← whole reader bound rest
    some (value :: values)

end PcmLink.Text
