import PcmLink.Link.Outbound
import PcmLink.Speed
import PcmLink.Warning

/-!
# Stations

A station is what the activities of a sender share: the link, the control that forces its speed,
the flag that asks them to stop, and the warnings given. The flag can be set by a write to the
link: `stopIn` counts the writes until then, the last of them included.
-/

namespace PcmLink

/-- What the activities of a sender share. -/
structure Station where
  /-- The link. -/
  outbound : Outbound := {}
  /-- What the next requests to the control meet; further ones succeed. -/
  control : List (Except Error.Told Unit) := []
  /-- The requests that reached the control, in order. -/
  requests : List (String × LinkSpeed) := []
  /-- Activities are asked to stop. -/
  stopped : Bool := false
  /-- With how many further writes the flag is set, if a write sets it. -/
  stopIn : Option Nat := none
  /-- The warnings given, in order. -/
  warnings : List Warning := []

namespace Station

/-- Set the flag. -/
def stop (station : Station) : Station := { station with stopped := true }

/-- Give a warning. -/
def warn (station : Station) (warning : Warning) : Station :=
  { station with warnings := station.warnings ++ [warning] }

/-- Count a write that is about to begin. -/
def countWrite (station : Station) : Station :=
  match station.stopIn with
  | some (left + 1) =>
    if left = 0 then { station with stopped := true, stopIn := none }
    else { station with stopIn := some left }
  | _ => station

/-- Write a frame to the link. -/
def write (station : Station) (bytes : List UInt8) : Except IoError Nat × Station :=
  let station := station.countWrite
  let (result, outbound) := station.outbound.write bytes
  (result, { station with outbound })

/-- Ask the control to force a speed on an interface. -/
def request (station : Station) (interface : String) (speed : LinkSpeed) :
    Except Error Unit × Station :=
  let asked := { station with requests := station.requests ++ [(interface, speed)] }
  match station.control with
  | [] => (.ok (), asked)
  | result :: rest => (result.mapError Subtype.val, { asked with control := rest })

/-- Force the speed that an option names on an interface. -/
def setSpeed (station : Station) (interface option : String) :
    Except Error LinkSpeed × Station :=
  match LinkSpeed.parse option with
  | .error error => (.error error, station)
  | .ok speed =>
    match station.request interface speed with
    | (.error error, station) => (.error error, station)
    | (.ok (), station) => (.ok speed, station)

end Station

end PcmLink
