import PcmLink.Octets.Hex

/-!
# Traces

A trace has one line for each payload: its bytes in hexadecimal, a space after each full pair of
bytes. The line of a payload without bytes is empty.
-/

namespace PcmLink.Trace

/-- The characters of the line of a payload, without its end. -/
def lineText : List UInt8 → List Char
  | first :: second :: rest => Hex.encode [first, second] ++ ' ' :: lineText rest
  | [last] => Hex.encode [last]
  | [] => []

/-- The bytes of the line of a payload. -/
def line (payload : List UInt8) : List UInt8 :=
  (lineText payload ++ ['\n']).map fun c => UInt8.ofNat c.toNat

/-- The bytes of the lines of payloads. -/
def lines (payloads : List (List UInt8)) : List UInt8 := payloads.flatMap line

end PcmLink.Trace
