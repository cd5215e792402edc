import PcmLink.Document.Quotation

/-!
# Keys of a document

A key is bare, of letters, digits, dashes and underscores, or quoted on one line. Keys joined by
dots form a path, which has fewer than eighty keys.
-/

namespace PcmLink.Document

open PcmLink.Text (Reader)

/-- The characters of bare keys. -/
def isBare (c : Char) : Bool := c.isAlphanum || c == '_' || c == '-'

/-- Read one key. -/
def key : Reader String
  | '"' :: rest => (lineQuotation '"' true ('"' :: rest)).map fun (key, rest) =>
    (String.ofList key, rest)
  | '\'' :: rest => (lineQuotation '\'' false ('\'' :: rest)).map fun (key, rest) =>
    (String.ofList key, rest)
  | text =>
    let bare := text.takeWhile isBare
    if bare.isEmpty then none else some (String.ofList bare, text.drop bare.length)

/-- Read one key with the spaces around it. -/
def spacedKey : Reader String := fun text => do
  let (key, rest) ← key (skipSpaces text)
  some (key, skipSpaces rest)

/-- The length from which on no path is taken. -/
def longestKeyPath : Nat := 80

/-- Read a path: the keys on the way and the last key. -/
def keyPath : Reader (List String × String) := fun text =>
  let (keys, rest) := Text.separated spacedKey '.' text
  if keys.length < longestKeyPath then
    keys.getLast?.map fun last => ((keys.dropLast, last), rest)
  else none

end PcmLink.Document
