/-!
# Time spans

A span of time given to the system: seconds as a signed word of sixty-four bits, and nanoseconds
below a second. Nanoseconds of a second and more are carried into the seconds.
-/

namespace PcmLink

/-- A span of time. -/
structure TimeSpan where
  /-- The seconds. -/
  seconds : Int64
  /-- The nanoseconds. -/
  nanoseconds : Nat
  deriving DecidableEq, Repr

namespace TimeSpan

/-- The nanoseconds of a second. -/
def second : Nat := 1000000000

/-- The span of seconds and nanoseconds. -/
def ofParts (seconds nanoseconds : Nat) : TimeSpan where
  seconds := (UInt64.ofNat (seconds + nanoseconds / second)).toInt64
  nanoseconds := nanoseconds % second

end TimeSpan

end PcmLink
