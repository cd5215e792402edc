import PcmLink.Disk
import PcmLink.Speed

/-!
# Forcing a speed with an external tool

The tool is started with the interface and the speed as arguments. A program is started by its name
or by its path; no other file is a program. The tool has failed when it cannot be started or ends
with a status other than zero.
-/

namespace PcmLink.Tool

/-- The programs of a machine by the names and paths that start them, with the status each ends
with. -/
abbrev Programs := List (String × Nat)

/-- The tool used unless another is named. -/
def standard : String := "ethtool"

/-- What is run to force a speed. -/
def command (program interface : String) (speed : LinkSpeed) : String :=
  s!"{program} -s {interface} speed {speed.megabits} duplex full autoneg off"

/-- Start a program and wait for its status. -/
def launch (programs : Programs) (disk : Disk) (program interface : String) :
    Except IoError Nat :=
  if program.toList.contains '\x00' || interface.toList.contains '\x00' then
    .error (.custom .invalidInput "nul byte found in provided data")
  else
    match programs.lookup program with
    | some status => .ok status
    | none =>
      if program.toList.contains '/' then
        match disk.find program with
        | .error failure => .error failure
        | .ok _ => .error (.os Errno.accessDenied)
      else if program = "." ∨ program = ".." then .error (.os Errno.accessDenied)
      else if Path.longestPart < program.utf8ByteSize then .error (.os Errno.nameTooLong)
      else .error (.os Errno.noEntry)

/-- What starting the tool to force a speed came to. -/
def verdict (program interface : String) (speed : LinkSpeed) :
    Except IoError Nat → Except Error Unit
  | .ok 0 => .ok ()
  | .ok status =>
    .error (.linkControl (command program interface speed) s!"exit status: {status}")
  | .error failure => .error (.linkControl (command program interface speed) failure.message)

/-- Force the speed that an option names; `launch` starts a program. -/
def setSpeed {m : Type → Type} [Monad m]
    (launch : String → String → LinkSpeed → m (Except IoError Nat))
    (program interface option : String) : m (Except Error LinkSpeed) :=
  match LinkSpeed.parse option with
  | .error error => return .error error
  | .ok speed => do
    let started ← launch program interface speed
    return (verdict program interface speed started).map fun _ => speed

end PcmLink.Tool
