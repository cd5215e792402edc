/-!
# Stop flags

A flag asks activities to stop. Copies of a flag share it. Some flags are also set by the signals
that end a program; the signals set all of these at once, for good.
-/

namespace PcmLink

/-- A handle on a flag. -/
structure StopHandle where
  /-- Which flag it is. -/
  flag : Nat
  /-- The flag also counts as set once a signal has come. -/
  heedsSignals : Bool := false
  deriving DecidableEq, Repr

/-- The flags of a program and its handles on them by name. -/
structure StopFlags where
  /-- Handles by name, the latest of a name first. -/
  handles : List (String × StopHandle) := []
  /-- How many flags were made. -/
  made : Nat := 0
  /-- The flags that are set. -/
  set : List Nat := []
  /-- A signal has come. -/
  signalled : Bool := false
  deriving DecidableEq, Repr

namespace StopFlags

/-- Give a handle a name. -/
def bind (flags : StopFlags) (name : String) (handle : StopHandle) : StopFlags :=
  { flags with handles := (name, handle) :: flags.handles.filter (·.1 != name) }

/-- Make a flag of its own. -/
def create (flags : StopFlags) (name : String) (heedsSignals : Bool) : StopFlags :=
  { flags with made := flags.made + 1 }.bind name { flag := flags.made, heedsSignals }

/-- Name another handle on the same flag. -/
def share (flags : StopFlags) (name existing : String) : StopFlags :=
  match flags.handles.lookup existing with
  | none => flags
  | some handle => flags.bind name handle

/-- A handle sees its flag set. -/
def isSetBy (flags : StopFlags) (handle : StopHandle) : Bool :=
  flags.set.contains handle.flag || (handle.heedsSignals && flags.signalled)

/-- The handle of a name sees its flag set. -/
def isSet (flags : StopFlags) (name : String) : Bool :=
  (flags.handles.lookup name).any flags.isSetBy

/-- Set the flag of a name. -/
def trigger (flags : StopFlags) (name : String) : StopFlags :=
  match flags.handles.lookup name with
  | none => flags
  | some handle => { flags with set := handle.flag :: flags.set }

/-- A signal that ends the program comes. -/
def signal (flags : StopFlags) : StopFlags := { flags with signalled := true }

/-- Every name with what its handle sees. -/
def states (flags : StopFlags) : List (String × Bool) :=
  flags.handles.map fun (name, handle) => (name, flags.isSetBy handle)

end StopFlags

end PcmLink
