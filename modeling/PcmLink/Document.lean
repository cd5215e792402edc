import PcmLink.Document.Value

/-!
# Documents

A document in TOML: settings by name, in tables under headers. Reading takes it apart into its
statements and builds the tables from them; a text that is no document is refused without a reason.
-/

namespace PcmLink

namespace Document

open PcmLink.Text (Reader)

/-- A statement of a document. -/
inductive Statement where
  /-- Nothing but blanks and perhaps a comment. -/
  | blank
  /-- The header of a table. -/
  | header (path : List String) (key : String)
  /-- The header of the next table of a series. -/
  | next (path : List String) (key : String)
  /-- A value under its path of keys. -/
  | value (path : List String) (key : String) (shape : Shape)

/-- Read a header and what follows it on its line. -/
def header : Reader Statement
  | '[' :: '[' :: text => do
    let ((path, key), rest) ← keyPath text
    let (_, rest) ← Text.one (· == ']') rest
    let (_, rest) ← Text.one (· == ']') rest
    let rest ← lineRest? rest
    some (.next path key, rest)
  | '[' :: text => do
    let ((path, key), rest) ← keyPath text
    let (_, rest) ← Text.one (· == ']') rest
    let rest ← lineRest? rest
    some (.header path key, rest)
  | _ => none

/-- Read a statement with its line end and the spaces of the next line. -/
def statement : Reader Statement := fun text =>
  let read : Option (Statement × List Char) :=
    match text with
    | '[' :: _ => header text
    | '#' :: _ => (lineEnd? (skipComment text)).map (.blank, ·)
    | '\n' :: _ | '\r' :: _ => (newline? text).map (.blank, ·)
    | _ => do
      let ((path, key, shape), rest) ← assignment (value deepest) text
      let rest ← lineRest? rest
      some (.value path key shape, rest)
  read.map fun (statement, rest) => (statement, skipSpaces rest)

/-- The tables built so far and the path of the latest header. -/
structure Draft where
  /-- The entries of the document. -/
  entries : Entries := []
  /-- The path of the latest header. -/
  current : List String := []

/-- Carry out a statement. -/
def Draft.add? (draft : Draft) : Statement → Option Draft
  | .blank => some draft
  | .header path key => do
    let entries ← draft.entries.open? path key
    some { entries, current := path ++ [key] }
  | .next path key => do
    let entries ← draft.entries.extend? path key
    some { entries, current := path ++ [key] }
  | .value path key shape => do
    let entries ← draft.entries.setBelow? draft.current path key shape
    some { draft with entries }

/-- The text of a document without the mark of its encoding. -/
def unmarked : List Char → List Char
  | '\uFEFF' :: text => text
  | text => text

/-- The settings of a document, in order, if the text is one. -/
def read? (text : String) : Option (List (String × Shape)) := do
  let text := skipSpaces (unmarked text.toList)
  let statements ← Text.whole statement text.length text
  let draft ← statements.foldlM Draft.add? {}
  some (draft.entries.map fun (key, item) => (key, item.shape))

end Document

end PcmLink
