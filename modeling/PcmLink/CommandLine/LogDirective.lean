import PcmLink.Text.Blank
import PcmLink.Text.Pattern
import PcmLink.Text.Split

/-!
# Entries of a log filter

An entry of a log filter names what it is about and a level: a target, a span and a field, each of
which may be left out, and how severe an event must be to be logged. The level may be left out too,
and then everything is logged.

The blanks at the ends of an entry do not count when its parts are looked for, but the parts are
taken from the entry as given, at the same distance in bytes from its begin. So an entry of one part
keeps its blanks, and one of several parts is read askew when it begins with blanks, or not at all
where a part would be cut within a character.
-/

namespace PcmLink

/-- How severe events must be to be logged. -/
inductive LogLevel where
  /-- Nothing is logged. -/
  | off
  /-- Errors are logged. -/
  | error
  /-- Warnings are logged too. -/
  | warn
  /-- What the programs do is logged too. -/
  | info
  /-- What helps to find a fault is logged too. -/
  | debug
  /-- Everything is logged. -/
  | trace
  deriving DecidableEq, Repr

namespace LogLevel

/-- The name of a level. -/
def name : LogLevel → String
  | off => "off"
  | error => "error"
  | warn => "warn"
  | info => "info"
  | debug => "debug"
  | trace => "trace"

/-- The levels, each at the place of its number. -/
def all : List LogLevel := [off, error, warn, info, debug, trace]

/-- The level that a text names by its number or by its name in letters of either case. -/
def read? (text : List Char) : Option LogLevel :=
  match Text.readNumeral 10 (UInt64.size - 1) text with
  | .ok number => all[number]?
  | .error _ => all.find? fun level => level.name.toList == text.map Char.toLower

/-- Errors are logged at the level. -/
def showsErrors (level : LogLevel) : Bool := level != off

end LogLevel

/-- A field that the events of an entry have. -/
structure LogField where
  /-- The name of the field. -/
  name : List Char
  /-- The number or the pattern that the field matches, as written. -/
  value : Option (List Char)
  deriving DecidableEq, Repr

namespace LogField

/-- The text is a decimal fraction: at least one digit, one point at most, and at the end an exponent
or nothing. -/
def isDecimal (text : List Char) : Bool :=
  let whole := text.takeWhile Char.isDigit
  let rest := text.drop whole.length
  let (fraction, rest) :=
    match rest with
    | '.' :: rest => (rest.takeWhile Char.isDigit, rest.dropWhile Char.isDigit)
    | _ => ([], rest)
  whole ++ fraction != [] &&
    match rest with
    | [] => true
    | c :: exponent =>
      let digits := match exponent with
        | '+' :: digits | '-' :: digits => digits
        | digits => digits
      c.toLower == 'e' && digits != [] && digits.all Char.isDigit

/-- The text is a number, with a sign or without. -/
def isNumber (text : List Char) : Bool :=
  let size := match text with
    | '+' :: size | '-' :: size => size
    | size => size
  isDecimal size || ["inf", "infinity", "nan"].contains (String.ofList (size.map Char.toLower))

/-- Read a field: a name, and after an equals sign what it matches, up to another. -/
def read? (text : List Char) : Option LogField :=
  match Text.split (· == '=') text with
  | [] => none
  | [name] => if name = [] then none else some { name, value := none }
  | name :: value :: _ =>
    if isNumber value || Text.Pattern.isPattern value then some { name, value := some value }
    else none

end LogField

/-- An entry of a log filter. -/
structure LogDirective where
  /-- How the names of its targets begin. -/
  target : Option (List Char)
  /-- The name of the span that its events happen in. -/
  span : Option (List Char)
  /-- The field that its events have. -/
  field : Option LogField
  /-- How severe its events must be. -/
  level : LogLevel
  deriving DecidableEq, Repr

namespace LogDirective

/-- Why there is no entry. -/
inductive Failure where
  /-- The text is no entry. -/
  | unreadable
  /-- A part would begin or end within a character. -/
  | cutCharacter
  deriving DecidableEq, Repr

/-- Cut a text after so many bytes, if a character ends there. -/
def cutAt? : Nat → List Char → Option (List Char × List Char)
  | 0, text => some ([], text)
  | _ + 1, [] => none
  | bytes + 1, c :: text =>
    if bytes + 1 < c.utf8Size then none
    else do
      let (before, after) ← cutAt? (bytes + 1 - c.utf8Size) text
      some (c :: before, after)
termination_by _ text => text.length

/-- The text from one place to another, in bytes; without the other place, to its end. -/
def slice (text : List Char) (start : Nat) (stop : Option Nat) : Except Failure (List Char) :=
  match cutAt? start text, stop with
  | none, _ => .error .cutCharacter
  | some (_, after), none => .ok after
  | some (_, after), some stop =>
    match cutAt? (stop - start) after with
    | none => .error .cutCharacter
    | some (part, _) => .ok part

/-- The number of bytes of a text. -/
def byteLength (text : List Char) : Nat := text.foldr (·.utf8Size + ·) 0

/-- A character that the name of a target can begin with. -/
def startsName (c : Char) : Bool := c == '-' || c == ':' || c == '_' || Text.isAlphanumeric c

/-- An entry while it is read. -/
structure Draft where
  /-- The entry as given. -/
  given : List Char
  /-- What is still to be read, without the blanks around the entry. -/
  rest : List Char
  /-- How many bytes have been read, without the blanks before the entry. -/
  place : Nat := 0

namespace Draft

/-- Take a part and the character after it, which is one of `ends`. -/
def upTo (draft : Draft) (ends : List Char) : Except Failure (List Char × Char × Draft) :=
  let seen := draft.rest.takeWhile (!ends.contains ·)
  match draft.rest.drop seen.length with
  | [] => .error .unreadable
  | closing :: rest => do
    let stop := draft.place + byteLength seen
    let part ← slice draft.given draft.place (some stop)
    .ok (part, closing, { draft with rest, place := stop + closing.utf8Size })

/-- Read the level that an entry ends with. -/
def level (draft : Draft) : Except Failure LogLevel := do
  match ← slice draft.given draft.place none with
  | [] => .ok .trace
  | text =>
    match LogLevel.read? text with
    | some level => .ok level
    | none => .error .unreadable

/-- Read what may follow brackets: a level after an equals sign. -/
def afterBrackets (draft : Draft) : Except Failure LogLevel :=
  match draft.rest with
  | [] => .ok .trace
  | '=' :: rest => { draft with rest, place := draft.place + 1 }.level
  | _ => .error .unreadable

/-- Read what follows an opening bracket: the name of a span, a field in braces or both, and what
may follow the brackets. -/
def brackets (draft : Draft) (target : Option (List Char)) : Except Failure LogDirective := do
  let (span, closing, draft) ← draft.upTo [']', '\x7b']
  if closing = ']' then
    let level ← draft.afterBrackets
    .ok { target, span := some span, field := none, level }
  else
    let span := if span = [] then none else some span
    let (text, _, draft) ← draft.upTo ['\x7d']
    match LogField.read? text, draft.rest with
    | some field, ']' :: rest =>
      let level ← { draft with rest, place := draft.place + 1 }.afterBrackets
      .ok { target, span, field := some field, level }
    | _, _ => .error .unreadable

end Draft

/-- Read an entry. One without a bracket or an equals sign is a level, if it names one, and else a
target. -/
def read (text : List Char) : Except Failure LogDirective :=
  match Text.trim text with
  | [] => .error .unreadable
  | '[' :: rest => { given := text, rest, place := 1 : Draft }.brackets none
  | first :: rest =>
    if !startsName first then .error .unreadable
    else if rest.any (['=', '['].contains ·) then do
      let (target, closing, draft) ← { given := text, rest := first :: rest : Draft }.upTo ['=', '[']
      if closing = '[' then draft.brackets (some target)
      else .ok { target := some target, span := none, field := none, level := ← draft.level }
    else
      match LogLevel.read? text with
      | some level => .ok { target := none, span := none, field := none, level }
      | none => .ok { target := some text, span := none, field := none, level := .trace }

/-- The entry decides without a span to happen in or a value to match: it can be decided by where an
event comes from. -/
def isStatic (entry : LogDirective) : Bool :=
  entry.span.isNone && entry.field.all fun field => field.value.isNone

/-- The entry is about the events of a target that have the fields. -/
def covers (target : List Char) (fields : List (List Char)) (entry : LogDirective) : Bool :=
  entry.isStatic && entry.target.all (·.isPrefixOf target) &&
    entry.field.all fun field => fields.contains field.name

/-- How much an entry says: first the length of its target, then its field. -/
def weight (entry : LogDirective) : Nat × Nat :=
  (entry.target.elim 0 (byteLength · + 1), entry.field.elim 0 fun _ => 1)

/-- An entry says at least as much as another. -/
def saysAsMuchAs (entry other : LogDirective) : Bool :=
  other.weight.1 < entry.weight.1 ||
    other.weight.1 == entry.weight.1 && other.weight.2 ≤ entry.weight.2

end LogDirective

end PcmLink
