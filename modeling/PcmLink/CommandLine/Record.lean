import PcmLink.CommandLine
import PcmLink.CommandLine.Host

/-!
# The recording program

Its options replace settings of the file; then it records on its interface.
-/

namespace PcmLink.Record

/-- What the options of the recording program say. -/
structure Arguments where
  /-- The file of the settings. -/
  settings : Option String := none
  /-- The interface to capture on. -/
  interface : Option String := none
  /-- How many frames are received. -/
  count : Option Nat := none
  /-- The length of the trailer of each frame. -/
  trailerLength : Option Nat := none
  /-- The sample rate of the recording. -/
  sampleRate : Option Nat := none
  /-- The only type wanted. -/
  wanted : Option ProtocolType := none
  /-- Where the trace is written. -/
  trace : Option String := none
  /-- Where the WAVE file is written. -/
  output : Option String := none
  /-- A recording without samples is an error. -/
  rejectEmpty : Bool := false
  /-- The WAVE file is read back. -/
  verifies : Bool := false
  /-- List the interfaces and end. -/
  lists : Bool := false

open CommandLine in
/-- The options of the recording program. -/
def rules : List (Rule Arguments) :=
  [{ long := "config", short := some 'c'
     action := path fun arguments file => { arguments with settings := some file } },
    { long := "interface", short := some 'i'
      action := anyText fun arguments name => { arguments with interface := some name } },
    { long := "count", short := some 'n'
      action := word fun arguments count => { arguments with count := some count } },
    { long := "trailer-len"
      action := word fun arguments length => { arguments with trailerLength := some length } },
    { long := "sample-rate"
      action := shortWord fun arguments rate => { arguments with sampleRate := some rate } },
    { long := "ethertype"
      action := parsed ProtocolType.parse fun arguments type =>
        { arguments with wanted := some type } },
    { long := "trace", short := some 't'
      action := path fun arguments file => { arguments with trace := some file } },
    { long := "output", short := some 'o'
      action := path fun arguments file => { arguments with output := some file } },
    { long := "reject-empty"
      action := .switch fun arguments => { arguments with rejectEmpty := true } },
    { long := "verify", action := .switch fun arguments => { arguments with verifies := true } },
    { long := "list-interfaces"
      action := .switch fun arguments => { arguments with lists := true } }] ++ common

/-- The settings with what the options say. -/
def Arguments.apply (arguments : Arguments) (settings : CaptureSettings) : CaptureSettings :=
  { settings with
    interface := arguments.interface.getD settings.interface
    count := arguments.count.getD settings.count
    trailerLength := (arguments.trailerLength.map UInt64.ofNat).getD settings.trailerLength
    sampleRate := (arguments.sampleRate.map UInt32.ofNat).getD settings.sampleRate
    wanted := arguments.wanted <|> settings.wanted
    tracePath := arguments.trace.getD settings.tracePath
    wavePath := arguments.output.getD settings.wavePath
    rejectEmpty := arguments.rejectEmpty || settings.rejectEmpty }

/-- The name of the program. -/
def programName : String := "ethpcm-capture"

/-- The name of the program in the log. -/
def logTarget : String := "ethpcm_capture"

variable {m : Type → Type} [Monad m]

/-- What ends the program once its command line is read. -/
def failure (host : Host m) (arguments : Arguments) : m String := do
  match ← Settings.load host.readFile CaptureSettings.known {} arguments.settings with
  | .error error => return inContext "failed to load configuration" error.briefly
  | .ok settings =>
    let settings := arguments.apply settings
    return inContext s!"capture on {settings.interface} failed"
      (← host.openingError settings.interface)

/-- Run the program. -/
def run (host : Host m) (arguments : List String) : m Ending := do
  match CommandLine.read rules [] {} arguments with
  | .refused => return .refused
  | .help => return .help (CommandLine.usage programName rules)
  | .version => return .version s!"{programName} {programVersion}"
  | .read arguments =>
    if arguments.lists then return .interfaces (← host.interfaces)
    else return .failed logTarget (← failure host arguments)

end PcmLink.Record
