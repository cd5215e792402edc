import PcmLink.CommandLine
import PcmLink.CommandLine.Host

/-!
# The sending program

Its options replace settings of the file; a payload given as text also drops the payload file of
the settings. It looks up its interface last, after the payload was read and a speed was forced.
-/

namespace PcmLink.Send

/-- What the options of the sending program say. -/
structure Arguments where
  /-- The file of the settings. -/
  settings : Option String := none
  /-- The interface to send on. -/
  interface : Option String := none
  /-- The endpoint the frames are for. -/
  destination : Option Address := none
  /-- The endpoint the frames are from. -/
  source : Option Address := none
  /-- What the payload is. -/
  protocolType : Option ProtocolType := none
  /-- The payload as text. -/
  payload : Option String := none
  /-- The file that holds the payload. -/
  payloadFile : Option String := none
  /-- The time between frames in milliseconds. -/
  interval : Option Nat := none
  /-- The speed to force. -/
  speed : Option String := none
  /-- Send one frame and end. -/
  once : Bool := false
  /-- Read no commands. -/
  silent : Bool := false
  /-- List the interfaces and end. -/
  lists : Bool := false

open CommandLine in
/-- The options of the sending program. -/
def rules : List (Rule Arguments) :=
  [{ long := "config", short := some 'c'
     action := path fun arguments file => { arguments with settings := some file } },
    { long := "interface", short := some 'i'
      action := anyText fun arguments name => { arguments with interface := some name } },
    { long := "dst"
      action := parsed Address.parse fun arguments address =>
        { arguments with destination := some address } },
    { long := "src"
      action := parsed Address.parse fun arguments address =>
        { arguments with source := some address } },
    { long := "type"
      action := parsed ProtocolType.parse fun arguments type =>
        { arguments with protocolType := some type } },
    { long := "payload"
      action := anyText fun arguments text => { arguments with payload := some text } },
    { long := "payload-file"
      action := path fun arguments file => { arguments with payloadFile := some file } },
    { long := "interval-ms"
      action := word fun arguments interval => { arguments with interval := some interval } },
    { long := "speed"
      action := anyText fun arguments option => { arguments with speed := some option } },
    { long := "once", action := .switch fun arguments => { arguments with once := true } },
    { long := "no-commands", action := .switch fun arguments => { arguments with silent := true } },
    { long := "list-interfaces"
      action := .switch fun arguments => { arguments with lists := true } }] ++ common

/-- Options of which only one can be given. -/
def conflicts : List (String × String) := [("payload", "payload-file")]

/-- The settings with what the options say. -/
def Arguments.apply (arguments : Arguments) (settings : SenderSettings) : SenderSettings where
  interface := arguments.interface.getD settings.interface
  destination := arguments.destination.getD settings.destination
  source := arguments.source.getD settings.source
  protocolType := arguments.protocolType.getD settings.protocolType
  payload := arguments.payload.getD settings.payload
  payloadFile :=
    match arguments.payloadFile, arguments.payload with
    | some file, _ => some file
    | none, some _ => none
    | none, none => settings.payloadFile
  interval := arguments.interval.getD settings.interval
  payloadLimit := settings.payloadLimit
  linkTool := settings.linkTool

/-- The name of the program. -/
def programName : String := "ethpcm-send"

/-- The name of the program in the log. -/
def logTarget : String := "ethpcm_send"

variable {m : Type → Type} [Monad m]

/-- What ends the program once its command line is read. -/
def failure (host : Host m) (arguments : Arguments) : m String := do
  match ← Settings.load host.readFile SenderSettings.known {} arguments.settings with
  | .error error => return inContext "failed to load configuration" error.briefly
  | .ok settings =>
    let settings := arguments.apply settings
    match ← settings.payloadBytes host.readFile with
    | .error error => return error.message
    | .ok _ =>
      let unopened : m String := do
        return inContext s!"failed to open {settings.interface}"
          (← host.openingError settings.interface)
      match arguments.speed with
      | none => unopened
      | some option =>
        match ← Tool.setSpeed host.launch settings.linkTool settings.interface option with
        | .error error =>
          return inContext s!"failed to set link speed on {settings.interface}" error
        | .ok _ => unopened

/-- Run the program. -/
def run (host : Host m) (arguments : List String) : m Ending := do
  match CommandLine.read rules conflicts {} arguments with
  | .refused => return .refused
  | .help => return .help (CommandLine.usage programName rules)
  | .version => return .version s!"{programName} {programVersion}"
  | .read arguments =>
    if arguments.lists then return .interfaces (← host.interfaces)
    else return .failed logTarget (← failure host arguments)

end PcmLink.Send
