import PcmLink.Document.Key
import PcmLink.Document.Moment
import PcmLink.Document.Number
import PcmLink.Document.Table

/-!
# Values of a document

A quotation, a number, a date or time, a truth value, a list in brackets or a table in braces.
Lists may run over lines and end with a comma; tables in braces stand on one line and may not.
Lists and tables are nested fewer than eighty deep.
-/

namespace PcmLink.Document

open PcmLink.Text (Reader)

/-- Read a value with the empty lines around it. -/
def element (inner : Reader Shape) : Reader Shape := fun text => do
  let (shape, rest) ← inner (skipLines text)
  some (shape, skipLines rest)

/-- Read a list whose opening bracket was taken. -/
def listRest (inner : Reader Shape) : Reader Shape := fun text => do
  let (elements, rest) := Text.separated (element inner) ',' text
  let rest := if elements.isEmpty then rest else (Text.optional (Text.one (· == ',')) rest).2
  let (_, rest) ← Text.one (· == ']') (skipLines rest)
  some (.sequence, rest)

/-- A path of keys, the last key and the value that they name. -/
abbrev Assignment := List String × String × Shape

/-- Read a path of keys and the value it names. -/
def assignment (inner : Reader Shape) : Reader Assignment := fun text => do
  let ((path, key), rest) ← keyPath text
  let (_, rest) ← Text.one (· == '=') rest
  let (shape, rest) ← inner (skipSpaces rest)
  some ((path, key, shape), skipSpaces rest)

/-- Read a table whose opening brace was taken. -/
def tableRest (inner : Reader Shape) : Reader Shape := fun text => do
  let (assignments, rest) := Text.separated (assignment inner) ',' text
  let _ ← assignments.foldlM
    (fun (entries : Entries) (path, key, shape) => entries.set? path key shape) []
  let (_, rest) ← Text.one (· == '\x7d') (skipSpaces rest)
  some (.map, rest)

/-- Read a number, a date or a time. -/
def numeric : Reader Shape := fun text =>
  match moment text with
  | some (_, rest) => some (.map, rest)
  | none =>
    match real text with
    | some (value, rest) => some (.real value, rest)
    | none => (integer text).map fun (value, rest) => (.integer value, rest)

/-- Read a value in which lists and tables nest at most `depth` deep. -/
def value : Nat → Reader Shape
  | depth, '[' :: rest =>
    match depth with
    | 0 => none
    | depth + 1 => listRest (value depth) rest
  | depth, '\x7b' :: rest =>
    match depth with
    | 0 => none
    | depth + 1 => tableRest (value depth) rest
  | _, 't' :: 'r' :: 'u' :: 'e' :: rest => some (.boolean true, rest)
  | _, 'f' :: 'a' :: 'l' :: 's' :: 'e' :: rest => some (.boolean false, rest)
  | _, text =>
    match quotation text with
    | some (content, rest) => some (.text (String.ofList content), rest)
    | none => numeric text

/-- How deep lists and tables nest. -/
def deepest : Nat := 79

end PcmLink.Document
