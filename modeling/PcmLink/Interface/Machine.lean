import PcmLink.Interface
import PcmLink.Text.Blank

/-!
# Interfaces of a machine

A machine lists its interfaces in a table, two lines of headings and then a line for each interface
with its name before a colon, and states the facts of an interface one in a text: its number in
decimal, its address and its flags in hexadecimal after `0x`.
-/

namespace PcmLink.Interface

/-- The name on a line of the table. -/
def nameOfLine (line : List Char) : Option String :=
  let name := Text.trim (line.takeWhile (· != ':'))
  if line.contains ':' ∧ name ≠ [] then some (String.ofList name) else none

/-- The names in the table. -/
def namesOfTable (table : String) : List String :=
  ((Text.split (· == '\n') table.toList).drop 2).filterMap nameOfLine

/-- The number that a fact states, zero if it states none. -/
def numberOfFact (fact : String) : Nat :=
  match Text.trim fact.toList with
  | '0' :: 'x' :: digits => (Text.readNumeral 16 (UInt32.size - 1) digits).toOption.getD 0
  | digits => (Text.readNumeral 10 (UInt32.size - 1) digits).toOption.getD 0

/-- The interface of a name from its facts. -/
def ofFacts (name number address flags : String) : Interface where
  name
  index := UInt32.ofNat (numberOfFact number)
  address := (Address.parse (Text.trimmed address)).toOption
  flags := UInt32.ofNat (numberOfFact flags)

end PcmLink.Interface
