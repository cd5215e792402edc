import PcmLink.IoError

/-!
# The receiving half of a link

What a link still delivers, one arrival for each receive, together with the flag that asks
activities to stop. The flag can be set at any receive, just before the arrival is delivered; it is
never cleared. After the last arrival a receive fails.
-/

namespace PcmLink

/-- What one receive delivers. -/
inductive Reception where
  /-- The bytes of a frame. -/
  | frame (bytes : List UInt8)
  /-- A failure of the link. -/
  | failure (failure : IoError)
  deriving DecidableEq, Repr

/-- A delivery and whether the flag is set just before it. -/
structure Arrival where
  /-- What is delivered. -/
  reception : Reception
  /-- The flag is set. -/
  stops : Bool := false
  deriving DecidableEq, Repr

/-- What a link still delivers. -/
structure Inbound where
  /-- The arrivals, in order. -/
  arrivals : List Arrival
  /-- Activities are asked to stop. -/
  stopped : Bool := false
  deriving DecidableEq, Repr

/-- What a receive meets after the last arrival. -/
def Inbound.exhausted : IoError := .custom .other "end of script"

end PcmLink
