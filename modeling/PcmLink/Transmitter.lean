import PcmLink.Command
import PcmLink.Frame
import PcmLink.Octets.Source
import PcmLink.Station
import PcmLink.Text.Utf8

/-!
# Transmitters

A transmitter sends one and the same frame, at every tick of a timer and whenever the operator
asks. A frame whose payload exceeds the limit of the link is refused before the link is touched;
any other is handed to the link in one write, and a write that takes only a part of it is an error.
If the length of the longest frame is no machine word, nothing is compared with it: whatever was to
send is given up. An error that is not fatal becomes a warning and the activity goes on.
-/

namespace PcmLink

/-- A sender of one frame. -/
structure Transmitter where
  /-- The interface it sends on. -/
  interface : String
  /-- The longest payload of a frame. -/
  payloadLimit : UInt64
  /-- The frame it sends. -/
  frame : Frame

namespace Transmitter

/-- The length of the longest frame it sends, if it is a machine word. -/
def frameLimit? (transmitter : Transmitter) : Option Nat :=
  Frame.lengthWith? transmitter.payloadLimit

/-- Send the bytes of a frame. -/
def send (transmitter : Transmitter) (bytes : List UInt8) (station : Station) :
    Except Error Nat × Station :=
  match transmitter.frameLimit? with
  | none => (.error .overflow, station)
  | some limit =>
    if limit < bytes.length then (.error (.frameTooLong bytes.length limit), station)
    else
      match station.write bytes with
      | (.error failure, station) => (.error (.ofSocket failure transmitter.interface), station)
      | (.ok sent, station) =>
        if sent = bytes.length then (.ok sent, station)
        else (.error (.truncated sent bytes.length), station)

/-- Send the frame. -/
def sendNow (transmitter : Transmitter) (station : Station) : Except Error Nat × Station :=
  transmitter.send transmitter.frame.bytes station

/-- Carry out a command. -/
def handle (transmitter : Transmitter) (command : Command) (station : Station) :
    Except Error Unit × Station :=
  match command with
  | .sendNow =>
    let (result, station) := transmitter.sendNow station
    (result.map fun _ => (), station)
  | .setSpeed option =>
    let (result, station) := station.setSpeed transmitter.interface option
    (result.map fun _ => (), station)

/-- What a step of an activity comes to: it goes on or it ends. -/
abbrev Progress := Option (Except Error Unit)

/-- Go on after a success or an error that is not fatal, which becomes a warning; end with a fatal
error. -/
def survive {α : Type} (warning : Error → Warning) (result : Except Error α)
    (station : Station) : Progress × Station :=
  match result with
  | .ok _ => (none, station)
  | .error error =>
    if error.isFatal then (some (.error error), station) else (none, station.warn (warning error))

/-- One tick of the timer: send the frame, then look at the flag. -/
def tick (transmitter : Transmitter) (station : Station) : Progress × Station :=
  let (result, station) := transmitter.sendNow station
  match survive .failedSend result station with
  | (some result, station) => (some result, station)
  | (none, station) => (if station.stopped then some (.ok ()) else none, station)

/-- Send at every tick until the flag is set, for at most the given number of ticks; without a
result the timer still runs. -/
def run (transmitter : Transmitter) : Nat → Station → Progress × Station
  | 0, station => (none, station)
  | ticks + 1, station =>
    match transmitter.tick station with
    | (some result, station) => (some result, station)
    | (none, station) => transmitter.run ticks station

/-- The text of a line without its end: a line feed, and a carriage return before it. -/
def lineText? (line : List UInt8) : Option String :=
  let ending : List UInt8 → List UInt8
    | 0x0a :: 0x0d :: rest => rest
    | 0x0a :: rest => rest
    | rest => rest
  Text.Utf8.decodeText (ending line.reverse).reverse

/-- Act on a line that was read while the flag was not set. -/
def obey (transmitter : Transmitter) (line : String) (station : Station) : Progress × Station :=
  match Command.parse line with
  | none => (none, station)
  | some command =>
    let (result, station) := transmitter.handle command station
    survive .failedCommand result station

end Transmitter

namespace Source

/-- A line and the pieces after it are fewer bytes than before, if the line has any. -/
theorem length_takeLine {pieces rest : List (List UInt8)} {line : List UInt8}
    (found : takeLine pieces = some (line, rest)) :
    line ++ rest.flatten = pieces.flatten ∧ line ≠ [] := by
  induction pieces generalizing line rest with
  | nil => simp [takeLine] at found
  | cons piece pieces ih =>
    simp only [takeLine] at found
    split at found
    · rename_i index place
      simp only [Option.some.injEq, Prod.mk.injEq] at found
      obtain ⟨rfl, rfl⟩ := found
      refine ⟨by simp [← List.append_assoc], ?_⟩
      cases piece with
      | nil => simp at place
      | cons => simp
    · cases later : takeLine pieces with
      | none => simp [later] at found
      | some next =>
        obtain ⟨tail, left⟩ := next
        simp only [later, Option.map_some, Option.some.injEq, Prod.mk.injEq] at found
        obtain ⟨rfl, rfl⟩ := found
        obtain ⟨whole, some_byte⟩ := ih later
        refine ⟨by simp [List.append_assoc, whole], ?_⟩
        simp [some_byte]

/-- Reading a line takes its bytes off the source. -/
theorem length_nextLine {source : Source} {line : List UInt8} {rest : List (List UInt8)}
    (read : source.nextLine = .bytes line rest) :
    rest.flatten.length < source.bytes.length := by
  unfold nextLine at read
  split at read
  · rename_i found
    obtain ⟨whole, some_byte⟩ := length_takeLine found
    injection read with same left
    subst same left
    have := congrArg List.length whole
    have positive := List.length_pos_iff.mpr some_byte
    simp only [List.length_append] at this
    unfold bytes
    omega
  · split at read
    · contradiction
    · split at read
      · contradiction
      · injection read with same left
        subst left
        rename_i filled
        simpa [List.length_pos_iff] using filled

end Source

namespace Transmitter

/-- Obey the lines of a source until it ends or the flag is set. A line that cannot be read ends
the listening whether or not the flag is set; a line read while it is set is not obeyed. -/
def listen (transmitter : Transmitter) (source : Source) (station : Station) :
    Except Error Unit × Station :=
  match _ : source.nextLine with
  | .finished => (.ok (), station)
  | .failed failure => (.error (.io failure), station)
  | .bytes line rest =>
    match lineText? line with
    | none => (.error (.io .notText), station)
    | some text =>
      if station.stopped then (.ok (), station)
      else
        match transmitter.obey text station with
        | (some result, station) => (result, station)
        | (none, station) => transmitter.listen { source with pieces := rest } station
termination_by source.bytes.length
decreasing_by exact Source.length_nextLine ‹_›

/-- Listen on behalf of a running timer: an error also sets the flag, which ends the timer. A
listener that is given up sets nothing. -/
def attend (transmitter : Transmitter) (source : Source) (station : Station) :
    Except Error Unit × Station :=
  match transmitter.listen source station with
  | (.error .overflow, station) => (.error .overflow, station)
  | (.error error, station) => (.error error, station.stop)
  | (.ok (), station) => (.ok (), station)

end Transmitter

end PcmLink
