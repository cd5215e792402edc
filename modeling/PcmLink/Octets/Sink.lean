import PcmLink.IoError

/-!
# Byte sinks

A sink keeps what is written to it, up to a limit if it has one. Once it is full it accepts no
byte, which fails the write that still has bytes to hand over; the bytes accepted before stay. What
such a write is told depends on what is behind the sink.
-/

namespace PcmLink

/-- Bytes written so far and how many fit in all. -/
structure Sink where
  /-- The bytes accepted, in order. -/
  written : List UInt8 := []
  /-- How many bytes are accepted in all, if there is a limit. -/
  limit : Option Nat := none
  /-- What a write is told whose bytes do not fit. -/
  refusal : IoError := .custom .writeZero "failed to write whole buffer"
  deriving DecidableEq, Repr

namespace Sink

/-- How many of `count` further bytes are accepted. -/
def accepts (sink : Sink) (count : Nat) : Nat :=
  match sink.limit with
  | none => count
  | some limit => min count (limit - sink.written.length)

/-- Write all bytes, or as many as fit and fail. -/
def write (sink : Sink) (bytes : List UInt8) : Except IoError Unit × Sink :=
  let fitting := sink.accepts bytes.length
  let after := { sink with written := sink.written ++ bytes.take fitting }
  if fitting < bytes.length then (.error sink.refusal, after) else (.ok (), after)

/-- A sink without a limit accepts everything. -/
theorem write_unlimited {sink : Sink} (unlimited : sink.limit = none) (bytes : List UInt8) :
    sink.write bytes = (.ok (), { sink with written := sink.written ++ bytes }) := by
  simp [write, accepts, unlimited]

end Sink

end PcmLink
