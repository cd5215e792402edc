import PcmLink.Link.Inbound
import PcmLink.Link.Outbound

/-!
# Links in memory

A link in memory has two queues. What is put into the one is received in order; what is sent is
found in the other. Each queue can be closed from outside: nothing more can be put into the one,
but what is in it is still received, and sending goes on when nobody looks into the other. A
receive with nothing to deliver waits in vain.
-/

namespace PcmLink

/-- A link in memory. -/
structure MemoryLink where
  /-- What is still to be received, in order. -/
  incoming : List Reception := []
  /-- More can be put into the incoming queue. -/
  accepting : Bool := true
  /-- The sending half. -/
  outbound : Outbound := {}
  /-- Somebody looks into the outgoing queue. -/
  watched : Bool := true
  deriving DecidableEq, Repr

namespace MemoryLink

/-- Put something into the incoming queue; true if it was accepted. -/
def inject (link : MemoryLink) (reception : Reception) : Bool × MemoryLink :=
  if link.accepting then (true, { link with incoming := link.incoming ++ [reception] })
  else (false, link)

/-- Receive what comes next. -/
def receive (link : MemoryLink) : Except IoError (List UInt8) × MemoryLink :=
  match link.incoming with
  | [] => (.error .timedOut, link)
  | .frame bytes :: rest => (.ok bytes, { link with incoming := rest })
  | .failure failure :: rest => (.error failure, { link with incoming := rest })

/-- Send a frame. -/
def send (link : MemoryLink) (bytes : List UInt8) : Except IoError Nat × MemoryLink :=
  let (result, outbound) := link.outbound.write bytes
  (result, { link with outbound })

/-- What looking into the outgoing queue finds. -/
inductive Observation where
  /-- Nobody looks any more. -/
  | closed
  /-- Nothing was sent. -/
  | empty
  /-- The bytes of a frame that was sent. -/
  | frame (bytes : List UInt8)
  deriving DecidableEq, Repr

/-- Take the next frame from the outgoing queue. -/
def observe (link : MemoryLink) : Observation × MemoryLink :=
  if link.watched then
    match link.outbound.wire with
    | [] => (.empty, link)
    | bytes :: rest => (.frame bytes, { link with outbound := { link.outbound with wire := rest } })
  else (.closed, link)

/-- Close the incoming queue. -/
def closeIncoming (link : MemoryLink) : MemoryLink := { link with accepting := false }

/-- Close the outgoing queue. -/
def closeOutgoing (link : MemoryLink) : MemoryLink := { link with watched := false }

end MemoryLink

end PcmLink
