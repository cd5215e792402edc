import PcmLink.Document.Shape

/-!
# Tables of a document

Entries with distinct keys, in order. A table comes about by its own header, on the way of the
path of another header, or by a path of keys. A header may take over a table that only a header's
path has made, which then moves behind the entries around it, and no other; a path of keys may
extend no table that has a header of its own, and it puts its last key only into a table that such
paths have made. A series of tables is extended by further headers, and paths lead into its last
table.
-/

namespace PcmLink.Document

/-- How a table came about. -/
inductive Origin where
  /-- By its own header. -/
  | header
  /-- On the way of the path of another header. -/
  | passage
  /-- By a path of keys. -/
  | keys
  deriving DecidableEq, Repr

/-- What stands under a key. -/
inductive Item where
  /-- A value. -/
  | value (shape : Shape)
  /-- A table. -/
  | table (origin : Origin) (entries : List (String × Item))
  /-- A series of tables. -/
  | series (elements : List (List (String × Item)))

/-- The entries of a table, in order. -/
abbrev Entries := List (String × Item)

/-- What a reader of the document sees of an item. -/
def Item.shape : Item → Shape
  | .value shape => shape
  | .table .. => .map
  | .series _ => .sequence

namespace Entries

/-- Put another item under a key, in the same place. -/
def replace (entries : Entries) (key : String) (item : Item) : Entries :=
  entries.map fun entry => if entry.1 = key then (key, item) else entry

/-- Add an item under a key that has none. -/
def add? (entries : Entries) (key : String) (item : Item) : Option Entries :=
  match entries.lookup key with
  | none => some (entries ++ [(key, item)])
  | some _ => none

/-- Change the table that a path leads to; the change is told how the table came about. Tables
missing on the way are made with the origin `making`. -/
def change? (making : Origin) (change : Origin → Entries → Option Entries) :
    List String → Origin → Entries → Option Entries
  | [], origin, entries => change origin entries
  | key :: path, _, entries =>
    match entries.lookup key with
    | none => do
      let inner ← change? making change path making []
      some (entries ++ [(key, .table making inner)])
    | some (.value _) => none
    | some (.table origin inner) =>
      if making = .keys ∧ origin = .header then none
      else do
        let inner ← change? making change path origin inner
        some (replace entries key (.table origin inner))
    | some (.series elements) => do
      let last ← change? making change path .header (elements.getLastD [])
      some (replace entries key (.series (elements.dropLast ++ [last])))

/-- Set the value that a path of keys names. -/
def set? (entries : Entries) (path : List String) (key : String) (shape : Shape) :
    Option Entries :=
  let put (origin : Origin) (inner : Entries) : Option Entries :=
    if path ≠ [] ∧ origin ≠ .keys then none else add? inner key (.value shape)
  change? .keys put path .header entries

/-- Begin the table that a header names. -/
def open? (entries : Entries) (path : List String) (key : String) : Option Entries :=
  let begin_ (_ : Origin) (inner : Entries) : Option Entries :=
    match inner.lookup key with
    | none => some (inner ++ [(key, .table .header [])])
    | some (.table .passage held) =>
      some (inner.filter (·.1 ≠ key) ++ [(key, .table .header held)])
    | some _ => none
  change? .passage begin_ path .header entries

/-- Begin the next table of the series that a header names. -/
def extend? (entries : Entries) (path : List String) (key : String) : Option Entries :=
  let begin_ (_ : Origin) (inner : Entries) : Option Entries :=
    match inner.lookup key with
    | none => some (inner ++ [(key, .series [[]])])
    | some (.series elements) => some (replace inner key (.series (elements ++ [[]])))
    | some _ => none
  change? .passage begin_ path .header entries

/-- Set the value that a path of keys names below the table of the latest header. -/
def setBelow? (entries : Entries) (header path : List String) (key : String) (shape : Shape) :
    Option Entries :=
  change? .passage (fun _ inner => set? inner path key shape) header .header entries

end Entries

end PcmLink.Document
