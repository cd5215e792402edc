import PcmLink.CommandLine.LogFilter
import PcmLink.CommandLine.LogLine
import PcmLink.Disk
import PcmLink.Interface
import PcmLink.Settings.Read

/-!
# The machine of a program

What the programs ask of the machine they run on, and how a run ends. Raw channels are not part of
it: opening one on an interface that exists fails as the machine says. The line of an error is
logged unless the log filter silences the program.
-/

namespace PcmLink

/-- What programs ask of the machine. -/
structure Host (m : Type → Type) where
  /-- Read a file. -/
  readFile : String → m (Except IoError (List UInt8))
  /-- The interfaces of the machine. -/
  interfaces : m (List Interface)
  /-- Start a program to force a speed on an interface and wait for its status. -/
  launch : String → String → LinkSpeed → m (Except IoError Nat)
  /-- The failure that opening a raw channel on an interface meets. -/
  refusal : Interface → m IoError

/-- A machine that consists of a disk, some interfaces and some programs. -/
def Host.ofDisk (disk : Disk) (interfaces : List Interface) (programs : Tool.Programs) :
    Host Id where
  readFile := disk.read
  interfaces := interfaces
  launch program interface _ := Tool.launch programs disk program interface
  refusal _ := .os Errno.notPermitted

namespace Host

variable {m : Type → Type} [Monad m]

/-- The error that opening a raw channel on the interface of a name meets. -/
def openingError (host : Host m) (name : String) : m Error := do
  match Interface.find (← host.interfaces) name with
  | .error error => return error
  | .ok interface => return .ofSocket (← host.refusal interface) interface.name

/-- The error that sending one frame of raw fields on the interface of a name meets. The fields are
checked first. -/
def sendingError (host : Host m) (name : String)
    (destination source protocolType payload : List UInt8) : m Error :=
  match Frame.ofFields destination source protocolType payload with
  | .error error => return .frame error
  | .ok _ => host.openingError name

end Host

/-- How a run of a program ends. -/
inductive Ending where
  /-- The command line was refused. -/
  | refused
  /-- Help was asked for. -/
  | help (lines : List String)
  /-- The version was asked for. -/
  | version (text : String)
  /-- The interfaces were asked for. -/
  | interfaces (found : List Interface)
  /-- An error ended it. -/
  | failed (target text : String)
  /-- It was broken off before it did anything. -/
  | brokenOff
  deriving DecidableEq

namespace Ending

/-- The exit status. -/
def status : Ending → Nat
  | .refused => 2
  | .failed .. => 1
  | .brokenOff => 101
  | _ => 0

/-- How the run ends under a log filter. The filter is read when the command line has been, and one
that cannot be cut into its parts breaks the run off. -/
def under (filter : Option String) : Ending → Ending
  | .interfaces found => if LogFilter.isBroken filter then .brokenOff else .interfaces found
  | .failed target text => if LogFilter.isBroken filter then .brokenOff else .failed target text
  | ending => ending

/-- The text of the log. -/
def log (filter : Option String) : Ending → Option String
  | .failed target text =>
    if LogFilter.showsErrors filter target then some (LogLine.error target text) else none
  | _ => none

/-- The text of the standard output, in lines. -/
def output : Ending → List String
  | .help lines => lines
  | .version text => [text]
  | .interfaces found => found.map Interface.text
  | _ => []

end Ending

/-- The version of the programs. -/
def programVersion : String := "0.3.0"

/-- The wording of an error in the context of what was tried. -/
def inContext (context : String) (error : Error) : String := s!"{context}: {error.message}"

/-- The wording of an error in settings. What is wrong with the document itself is not explained. -/
def Error.briefly : Error → Error
  | .configuration file defect => .configuration file defect.brief
  | error => error

end PcmLink
