import PcmLink.IoError

/-!
# The sending half of a link

A link takes each frame in a single write. What the next writes meet is given in advance; beyond
that a write succeeds. A write that succeeds puts the frame on the wire, or its first bytes if the
link takes only so many, and reports how many those are; a link may also report any other number.
The link remembers what it was handed, whatever became of it.
-/

namespace PcmLink

/-- What a write to the link meets. -/
inductive WriteOutcome where
  /-- The link takes the frame. -/
  | accepted
  /-- The link fails. -/
  | failed (failure : IoError)
  /-- The link reports that it took so many bytes, and takes no more than those. -/
  | reported (count : Nat)
  deriving DecidableEq, Repr

/-- The sending half of a link. -/
structure Outbound where
  /-- What the next writes meet. -/
  outcomes : List WriteOutcome := []
  /-- The most bytes of a frame that the link takes, if there is a limit. -/
  longest : Option Nat := none
  /-- What reached the wire, in order. -/
  wire : List (List UInt8) := []
  /-- What the link was handed, in order. -/
  handed : List (List UInt8) := []
  deriving DecidableEq, Repr

namespace Outbound

/-- The bytes of a frame that the link takes. -/
def taken (outbound : Outbound) (bytes : List UInt8) : List UInt8 :=
  match outbound.longest with
  | none => bytes
  | some longest => bytes.take longest

/-- Put the bytes of a frame on the wire, as far as the link takes them. -/
def transmit (outbound : Outbound) (bytes : List UInt8) : Nat × Outbound :=
  let taken := outbound.taken bytes
  (taken.length, { outbound with wire := outbound.wire ++ [taken] })

/-- What becomes of the bytes of a write. -/
def meet (outbound : Outbound) (bytes : List UInt8) : Except IoError Nat × Outbound :=
  match outbound.outcomes with
  | .failed failure :: rest => (.error failure, { outbound with outcomes := rest })
  | .reported count :: rest =>
    (.ok count, { outbound with outcomes := rest, wire := outbound.wire ++ [bytes.take count] })
  | .accepted :: rest =>
    let (sent, outbound) := { outbound with outcomes := rest }.transmit bytes
    (.ok sent, outbound)
  | [] =>
    let (sent, outbound) := outbound.transmit bytes
    (.ok sent, outbound)

/-- Write a frame. -/
def write (outbound : Outbound) (bytes : List UInt8) : Except IoError Nat × Outbound :=
  { outbound with handed := outbound.handed ++ [bytes] }.meet bytes

end Outbound

end PcmLink
