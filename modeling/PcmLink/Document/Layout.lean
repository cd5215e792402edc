import PcmLink.Text.Blank
import PcmLink.Text.Front

/-!
# Blanks, comments and line ends of a document

Between the parts of a line stand spaces and tabs. A comment runs from its mark to the end of the
line and holds no control character but the tab. A line ends with a line feed, before which one
carriage return may stand, or with the document.
-/

namespace PcmLink.Document

open PcmLink.Text (Reader)

/-- Spaces and tabs stand between the parts of a line. -/
def isSpace (c : Char) : Bool := c == ' ' || c == '\t'

/-- A character that comments and quotations may hold: any but a control, of which only the tab. -/
def isPrinted (c : Char) : Bool :=
  c == '\t' || (0x20 ≤ c.toNat && c.toNat ≤ 0x7e) || 0x80 ≤ c.toNat

/-- The text after spaces and tabs. -/
def skipSpaces (text : List Char) : List Char := text.dropWhile isSpace

/-- The text after a line feed, with or without a carriage return before it. -/
def newline? : List Char → Option (List Char)
  | '\n' :: rest => some rest
  | '\r' :: '\n' :: rest => some rest
  | _ => none

/-- The text after the end of a line, which the end of the document is too. -/
def lineEnd? : List Char → Option (List Char)
  | [] => some []
  | text => newline? text

/-- The text after a comment, if there is one. -/
def skipComment : List Char → List Char
  | '#' :: rest => rest.dropWhile isPrinted
  | text => text

/-- The text after what may follow the last part of a line. -/
def lineRest? (text : List Char) : Option (List Char) := lineEnd? (skipComment (skipSpaces text))

/-- Take one line that holds nothing but spaces and a comment. -/
def emptyLine : Reader Unit := fun text => do
  let rest ← newline? (skipComment (skipSpaces text))
  some ((), rest)

/-- The text after empty lines and then spaces. -/
def skipLines (text : List Char) : List Char :=
  skipSpaces (Text.many emptyLine text.length text).2

end PcmLink.Document
