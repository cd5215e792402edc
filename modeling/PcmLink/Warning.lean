import PcmLink.Error

/-!
# Warnings

Errors that an activity survives are reported as warnings, in the order in which they are met.
-/

namespace PcmLink

/-- An error that did not end the activity that met it. -/
inductive Warning where
  /-- A received frame was too short; `number` counts the frames received so far. -/
  | droppedFrame (number : Nat) (error : FrameError)
  /-- A timed send failed. -/
  | failedSend (error : Error)
  /-- A command failed. -/
  | failedCommand (error : Error)
  deriving DecidableEq, Repr

namespace Warning

/-- What happened. -/
def message : Warning → String
  | .droppedFrame .. => "dropping frame"
  | .failedSend _ => "send failed"
  | .failedCommand _ => "command failed"

/-- The wording of the error. -/
def cause : Warning → String
  | .droppedFrame _ error => error.message
  | .failedSend error => error.message
  | .failedCommand error => error.message

/-- The number of the frame, where the warning is about one. -/
def number? : Warning → Option Nat
  | .droppedFrame number _ => some number
  | _ => none

end Warning

end PcmLink
