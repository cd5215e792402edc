import PcmLink.CapturedFrame
import PcmLink.Link.Inbound
import PcmLink.Warning

/-!
# Captures

A capture yields the frames of a link one at a time until it has received as many as it was asked
for. Before each receive it looks whether it is over and then whether it was asked to stop; a
receive is never begun after either. What is received is dropped with a warning if it is too short
for a header and a trailer, passed over if it is of another type than the wanted one, and yielded
otherwise; only a frame passed over does not count as received. A failure that may pass is tried
again and any other ends the capture, and so does a frame whose least length is no machine word.
-/

namespace PcmLink

/-- What to collect. -/
structure CaptureOptions where
  /-- How many frames are received in all, those too short among them. -/
  count : Nat := 600
  /-- The length of the trailer of each frame. -/
  trailerLength : UInt64 := 4
  /-- The only type wanted, if there is one. -/
  wanted : Option ProtocolType := none
  deriving DecidableEq, Repr

/-- A capture under way. -/
structure Capture where
  /-- What to collect. -/
  options : CaptureOptions := {}
  /-- The name of the interface, for errors. -/
  interface : String
  /-- The capture heeds the flag that asks it to stop. -/
  heedsStop : Bool := true
  /-- Frames received, of the wanted type or too short. -/
  received : Nat := 0
  /-- Frames yielded. -/
  captured : Nat := 0
  /-- Frames dropped for being too short. -/
  dropped : Nat := 0
  /-- Frames passed over for their type. -/
  filtered : Nat := 0
  /-- Nothing is yielded any more. -/
  finished : Bool := false
  deriving DecidableEq, Repr

namespace Capture

/-- What a capture yields: a frame, or the error that ends it. -/
abbrev Item := Except Error CapturedFrame

/-- Nothing is left to receive. -/
def isOver (capture : Capture) : Bool :=
  capture.finished || decide (capture.options.count ≤ capture.received)

/-- The frame is of another type than the wanted one. -/
def isForeign (capture : Capture) (frame : CapturedFrame) : Bool :=
  match capture.options.wanted with
  | none => false
  | some wanted => frame.protocolType != wanted

/-- Take one reception. Without an item the capture goes on to the next receive. -/
def receive (capture : Capture) : Reception → Option Item × Capture × List Warning
  | .failure failure =>
    if failure.isTransient then (none, capture, [])
    else (some (.error (.ofSocket failure capture.interface)), { capture with finished := true }, [])
  | .frame bytes =>
    match CapturedFrame.parse? bytes capture.options.trailerLength with
    | none => (some (.error .overflow), { capture with finished := true }, [])
    | some (.error error) =>
      let received := capture.received + 1
      (none, { capture with received, dropped := capture.dropped + 1 },
        [.droppedFrame received error])
    | some (.ok frame) =>
      if capture.isForeign frame then (none, { capture with filtered := capture.filtered + 1 }, [])
      else
        (some (.ok frame),
          { capture with received := capture.received + 1, captured := capture.captured + 1 }, [])

/-- What asking a capture for its next item comes to. -/
structure Turn where
  /-- The item, unless the capture has ended. -/
  item : Option Item
  /-- The capture afterwards. -/
  capture : Capture
  /-- What the link delivers afterwards. -/
  inbound : Inbound
  /-- The warnings on the way. -/
  warnings : List Warning

/-- Ask for the next item of what the arrivals deliver. -/
def nextFrom (capture : Capture) (stopped : Bool) (arrivals : List Arrival) : Turn :=
  if capture.isOver then
    { item := none, capture := { capture with finished := true }
      inbound := { arrivals, stopped }, warnings := [] }
  else if capture.heedsStop && stopped then
    { item := some (.error .cancelled), capture := { capture with finished := true }
      inbound := { arrivals, stopped }, warnings := [] }
  else
    match arrivals with
    | [] =>
      { item := some (.error (.ofSocket Inbound.exhausted capture.interface))
        capture := { capture with finished := true }
        inbound := { arrivals := [], stopped }, warnings := [] }
    | arrival :: rest =>
      let stopped := stopped || arrival.stops
      match capture.receive arrival.reception with
      | (some item, capture, warnings) =>
        { item := some item, capture, inbound := { arrivals := rest, stopped }, warnings }
      | (none, capture, warnings) =>
        let turn := nextFrom capture stopped rest
        { turn with warnings := warnings ++ turn.warnings }

/-- Ask for the next item. -/
def next (capture : Capture) (inbound : Inbound) : Turn :=
  capture.nextFrom inbound.stopped inbound.arrivals

/-- Asking for an item takes no arrival back, and a frame was one of the arrivals. -/
theorem length_nextFrom (capture : Capture) (stopped : Bool) (arrivals : List Arrival) :
    (capture.nextFrom stopped arrivals).inbound.arrivals.length ≤ arrivals.length ∧
      ∀ frame, (capture.nextFrom stopped arrivals).item = some (.ok frame) →
        (capture.nextFrom stopped arrivals).inbound.arrivals.length < arrivals.length := by
  induction arrivals generalizing capture stopped with
  | nil =>
    unfold nextFrom
    split
    · simp
    · split <;> simp
  | cons arrival rest ih =>
    unfold nextFrom
    split
    · simp
    · split
      · simp
      · dsimp only
        split
        · simp
        · rename_i after _ _
          obtain ⟨shorter, yielded⟩ := ih after (stopped || arrival.stops)
          refine ⟨?_, fun frame found => ?_⟩
          · simp only [List.length_cons]
            omega
          · have := yielded frame found
            simp only [List.length_cons]
            omega

/-- What a capture yields until it ends. -/
structure Rest where
  /-- The frames, in order. -/
  frames : List CapturedFrame
  /-- The error that ended the capture, if one did. -/
  error : Option Error
  /-- The capture afterwards. -/
  capture : Capture
  /-- What the link delivers afterwards. -/
  inbound : Inbound
  /-- The warnings on the way. -/
  warnings : List Warning

/-- Ask for items until the capture ends. -/
def drain (capture : Capture) (inbound : Inbound) : Rest :=
  let turn := capture.next inbound
  match _ : turn.item with
  | none =>
    { frames := [], error := none, capture := turn.capture, inbound := turn.inbound
      warnings := turn.warnings }
  | some (.error error) =>
    { frames := [], error := some error, capture := turn.capture, inbound := turn.inbound
      warnings := turn.warnings }
  | some (.ok frame) =>
    let rest := drain turn.capture turn.inbound
    { rest with frames := frame :: rest.frames, warnings := turn.warnings ++ rest.warnings }
termination_by inbound.arrivals.length
decreasing_by exact (length_nextFrom capture inbound.stopped inbound.arrivals).2 frame ‹_›

end Capture

end PcmLink
