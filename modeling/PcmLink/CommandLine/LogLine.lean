import PcmLink.Octets.Hex

/-!
# Log lines

The line of an error says who reports it. The text of an error is shown with the control characters
that a terminal obeys written by number, so that it cannot drive the terminal it is shown on; tabs
and line ends stay.
-/

namespace PcmLink.LogLine

/-- A terminal obeys the character: a bell, a backspace, a form feed, an escape, a deletion, or a
control of the second set. -/
def isObeyed (c : Char) : Bool :=
  c == '\x07' || c == '\x08' || c == '\x0c' || c == '\x1b' || (0x7f ≤ c.toNat && c.toNat ≤ 0x9f)

/-- A character as it is shown. -/
def shownChar (c : Char) : List Char :=
  if !isObeyed c then [c]
  else if c.toNat < 0x80 then '\\' :: 'x' :: Hex.encode [UInt8.ofNat c.toNat]
  else "\\u\x7b".toList ++ Nat.toDigits 16 c.toNat ++ ['\x7d']

/-- A text as it is shown. -/
def shown (text : String) : String := String.ofList (text.toList.flatMap shownChar)

/-- The line of an error of a target. -/
def error (target text : String) : String := s!"ERROR {target}: {shown text}"

end PcmLink.LogLine
