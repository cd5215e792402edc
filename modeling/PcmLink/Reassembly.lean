import PcmLink.Octets.Sink
import PcmLink.Trace

/-!
# Reassembly

Payloads carry no numbers, so they are joined in the order of their arrival. Each is traced before
it is joined: when its line does not fit the trace, the payload is not part of the stream.
-/

namespace PcmLink

/-- Payloads joined so far and their trace. -/
structure Reassembly where
  /-- The bytes of the payloads, in order. -/
  stream : List UInt8 := []
  /-- How many payloads were joined. -/
  segments : Nat := 0
  /-- Where the trace is written. -/
  trace : Sink := {}

namespace Reassembly

/-- Trace a payload and join it. -/
def push (reassembly : Reassembly) (payload : List UInt8) : Except IoError Unit × Reassembly :=
  match reassembly.trace.write (Trace.line payload) with
  | (.error failure, trace) => (.error failure, { reassembly with trace })
  | (.ok (), trace) =>
    (.ok (), {
      stream := reassembly.stream ++ payload
      segments := reassembly.segments + 1
      trace })

/-- Join payloads until one fails. -/
def pushAll (reassembly : Reassembly) : List (List UInt8) → Except IoError Unit × Reassembly
  | [] => (.ok (), reassembly)
  | payload :: rest =>
    match reassembly.push payload with
    | (.error failure, after) => (.error failure, after)
    | (.ok (), after) => pushAll after rest

/-- Without a limit a payload is always joined. -/
theorem push_unlimited {reassembly : Reassembly} (unlimited : reassembly.trace.limit = none)
    (payload : List UInt8) :
    reassembly.push payload = (.ok (), {
      stream := reassembly.stream ++ payload
      segments := reassembly.segments + 1
      trace := { reassembly.trace with
        written := reassembly.trace.written ++ Trace.line payload } }) := by
  rw [push, Sink.write_unlimited unlimited]

end Reassembly

end PcmLink
