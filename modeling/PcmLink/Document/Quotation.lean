import PcmLink.Document.Layout
import PcmLink.Text.Numeral

/-!
# Quotations of a document

A text is written between marks: single quotes hold it as it is, double quotes hold it with
escapes. Three marks in a row enclose a text of several lines, whose first line end is dropped and
whose line ends are read as line feeds. There a run of one or two marks is part of the text; of a
longer run the last three close it, and two at most before them still belong to the text.
-/

namespace PcmLink.Document

open PcmLink.Text (Reader)

/-- The character with a number, if there is one. -/
def character? (number : Nat) : Option Char :=
  if number.isValidChar then some (Char.ofNat number) else none

/-- The character that an escape with `count` hexadecimal digits names. -/
def numbered (count : Nat) : Reader Char := fun text => do
  let (digits, rest) ← Text.exactly (fun c => (Text.digit? 16 c).isSome) count text
  let number ← (Text.readDigits 16 (Nat.pow 16 count) 0 digits).toOption
  let c ← character? number
  some (c, rest)

/-- The character that what follows a backslash stands for. -/
def escape : Reader Char
  | 'b' :: rest => some ('\x08', rest)
  | 't' :: rest => some ('\t', rest)
  | 'n' :: rest => some ('\n', rest)
  | 'f' :: rest => some ('\x0c', rest)
  | 'r' :: rest => some ('\r', rest)
  | '"' :: rest => some ('"', rest)
  | '\\' :: rest => some ('\\', rest)
  | 'u' :: rest => numbered 4 rest
  | 'U' :: rest => numbered 8 rest
  | _ => none

/-- Take one character of a quotation on one line; `escapes` says that a backslash escapes. -/
def lineCharacter (mark : Char) (escapes : Bool) : Reader Char
  | '\\' :: rest => if escapes then escape rest else some ('\\', rest)
  | text => Text.one (fun c => isPrinted c && c != mark) text

/-- Read a quotation on one line. -/
def lineQuotation (mark : Char) (escapes : Bool) : Reader (List Char) := fun text => do
  let (_, rest) ← Text.one (· == mark) text
  let (content, rest) := Text.many (lineCharacter mark escapes) rest.length rest
  let (_, rest) ← Text.one (· == mark) rest
  some (content, rest)

/-- The text after a backslash at the end of a line: the line end and all blanks after it are not
part of the quotation. -/
def joinedLine? (text : List Char) : Option (List Char) := do
  let rest ← newline? (skipSpaces text)
  some ((Text.many (fun text =>
    match Text.one isSpace text with
    | some (_, rest) => some ((), rest)
    | none => (newline? text).map ((), ·)) rest.length rest).2)

/-- Take a piece of a quotation of several lines that is no mark. -/
def blockCharacter (mark : Char) (escapes : Bool) : Reader (List Char) := fun text =>
  match newline? text with
  | some rest => some (['\n'], rest)
  | none =>
    match text with
    | '\\' :: rest =>
      if escapes then
        match joinedLine? rest with
        | some rest => some ([], rest)
        | none => (escape rest).map fun (c, rest) => ([c], rest)
      else some (['\\'], rest)
    | text => (Text.one (fun c => isPrinted c && c != mark) text).map fun (c, rest) => ([c], rest)

/-- Take a piece of a quotation of several lines: a run of marks that does not close it, or
anything else. -/
def blockPiece (mark : Char) (escapes : Bool) : Reader (List Char) := fun text =>
  let marks := text.takeWhile (· == mark)
  if marks.isEmpty then blockCharacter mark escapes text
  else if marks.length < 3 then some (marks, text.drop marks.length)
  else none

/-- Read a quotation of several lines, whose three opening marks were taken. -/
def blockQuotation (mark : Char) (escapes : Bool) : Reader (List Char) := fun text =>
  let text := (newline? text).getD text
  let (pieces, rest) := Text.many (blockPiece mark escapes) text.length text
  let marks := (rest.takeWhile (· == mark)).length
  if marks < 3 then none
  else
    let kept := min (marks - 3) 2
    some (pieces.flatten ++ List.replicate kept mark, rest.drop (kept + 3))

/-- Read any quotation. -/
def quotation : Reader (List Char)
  | '"' :: '"' :: '"' :: rest => blockQuotation '"' true rest
  | '\'' :: '\'' :: '\'' :: rest => blockQuotation '\'' false rest
  | '"' :: rest => lineQuotation '"' true ('"' :: rest)
  | text => lineQuotation '\'' false text

end PcmLink.Document
