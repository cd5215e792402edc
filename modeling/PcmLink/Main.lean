import PcmLink.CommandLine.Record
import PcmLink.CommandLine.Send
import PcmLink.Interface.Machine

/-!
# The command line

The first argument names the program, `send` or `capture`, and the others are its own. The machine
gives the programs its files and its interfaces; it starts no other program and opens no raw
channel.
-/

namespace PcmLink.Program

/-- The failure that an error of the machine is. -/
def failureOf : IO.Error → IoError
  | .alreadyExists _ code _ | .noFileOrDirectory _ code _ | .interrupted _ code _
  | .invalidArgument _ code _ | .permissionDenied _ code _ | .resourceExhausted _ code _
  | .inappropriateType _ code _ | .noSuchThing _ code _ => .os code.toNat
  | .otherError code _ | .resourceBusy code _ | .resourceVanished code _
  | .unsupportedOperation code _ | .hardwareFault code _ | .unsatisfiedConstraints code _
  | .illegalOperation code _ | .protocolError code _ | .timeExpired code _ => .os code.toNat
  | .unexpectedEof => .custom .unexpectedEof "unexpected end of file"
  | .userError text => .custom .other text

/-- Read a file of the machine. -/
def readFile (path : String) : IO (Except IoError (List UInt8)) := do
  match ← (IO.FS.readBinFile path).toBaseIO with
  | .ok bytes => return .ok bytes.toList
  | .error error => return .error (failureOf error)

/-- Read a file of the machine as text; a file that cannot be read says nothing. -/
def readStatement (path : String) : IO String := do
  match ← readFile path with
  | .ok bytes => return (Text.Utf8.decodeText bytes).getD ""
  | .error _ => return ""

/-- The interfaces of the machine. -/
def interfaces : IO (List Interface) := do
  let names := Interface.namesOfTable (← readStatement "/proc/net/dev")
  names.mapM fun name => do
    let facts := s!"/sys/class/net/{name}"
    return .ofFacts name (← readStatement s!"{facts}/ifindex") (← readStatement s!"{facts}/address")
      (← readStatement s!"{facts}/flags")

/-- The machine. -/
def machine : Host IO where
  readFile := readFile
  interfaces := interfaces
  launch _ _ _ := return .error (.custom .unsupported "programs cannot be started")
  refusal _ := return .os Errno.notPermitted

/-- Run the program that the first argument names. -/
def run : List String → IO Ending
  | "send" :: arguments => Send.run machine arguments
  | "capture" :: arguments => Record.run machine arguments
  | _ => return .refused

end PcmLink.Program

open PcmLink in
/-- Run a program, print what it says and end with its status. -/
def main (arguments : List String) : IO UInt32 := do
  let filter ← IO.getEnv "PCM_LINK_LOG"
  let ending := (← Program.run arguments).under filter
  if ending = .refused then IO.eprintln "error: the arguments are not understood"
  for line in ending.output do
    IO.println line
  match ending.log filter with
  | some line => IO.println line
  | none => pure ()
  return UInt32.ofNat ending.status
