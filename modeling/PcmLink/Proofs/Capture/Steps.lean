import PcmLink.Capture

/-!
# Captures one reception at a time

A drained capture asks for items, and each item may take several receptions. The equations here
take it apart by receptions instead: what one reception does to a drained capture that is neither
over nor stopped depends only on what `Capture.receive` makes of it.
-/

namespace PcmLink.Capture

/-- The capture goes on to a receive. -/
def IsOpen (capture : Capture) (stopped : Bool) : Prop :=
  capture.isOver = false ∧ (capture.heedsStop && stopped) = false

/-- A capture that is over takes nothing and is finished. -/
theorem nextFrom_of_isOver {capture : Capture} (isOver : capture.isOver = true) (stopped : Bool)
    (arrivals : List Arrival) :
    capture.nextFrom stopped arrivals =
      { item := none, capture := { capture with finished := true }
        inbound := { arrivals, stopped }, warnings := [] } := by
  unfold nextFrom
  rw [if_pos isOver]

/-- A capture that heeds a set flag begins no receive. -/
theorem nextFrom_of_stopped {capture : Capture} {stopped : Bool} (wanting : capture.isOver = false)
    (heeded : (capture.heedsStop && stopped) = true) (arrivals : List Arrival) :
    capture.nextFrom stopped arrivals =
      { item := some (.error .cancelled), capture := { capture with finished := true }
        inbound := { arrivals, stopped }, warnings := [] } := by
  unfold nextFrom
  rw [if_neg (by simp [wanting]), if_pos heeded]

/-- An open capture that nothing is left for meets the end of the script. -/
theorem nextFrom_nil {capture : Capture} {stopped : Bool} (isOpen : capture.IsOpen stopped) :
    capture.nextFrom stopped [] =
      { item := some (.error (.ofSocket Inbound.exhausted capture.interface))
        capture := { capture with finished := true }
        inbound := { arrivals := [], stopped }, warnings := [] } := by
  unfold nextFrom
  rw [if_neg (by simp [isOpen.1]), if_neg (by simp [isOpen.2])]

/-- An open capture yields the item that the next reception makes. -/
theorem nextFrom_cons_of_some {capture after : Capture} {stopped : Bool} {arrival : Arrival}
    {item : Item} {warnings : List Warning} (isOpen : capture.IsOpen stopped)
    (received : capture.receive arrival.reception = (some item, after, warnings))
    (rest : List Arrival) :
    capture.nextFrom stopped (arrival :: rest) =
      { item := some item, capture := after
        inbound := { arrivals := rest, stopped := stopped || arrival.stops }, warnings } := by
  rw [nextFrom.eq_def, if_neg (by simp [isOpen.1]), if_neg (by simp [isOpen.2])]
  simp only [received]

/-- An open capture goes on behind a reception that makes no item. -/
theorem nextFrom_cons_of_none {capture after : Capture} {stopped : Bool} {arrival : Arrival}
    {warnings : List Warning} (isOpen : capture.IsOpen stopped)
    (received : capture.receive arrival.reception = (none, after, warnings))
    (rest : List Arrival) :
    capture.nextFrom stopped (arrival :: rest) =
      let turn := after.nextFrom (stopped || arrival.stops) rest
      { turn with warnings := warnings ++ turn.warnings } := by
  rw [nextFrom.eq_def, if_neg (by simp [isOpen.1]), if_neg (by simp [isOpen.2])]
  simp only [received]

/-- Draining ends where a capture has no item. -/
theorem drain_of_none {capture : Capture} {stopped : Bool} {arrivals : List Arrival} {turn : Turn}
    (next : capture.nextFrom stopped arrivals = turn) (none : turn.item = none) :
    capture.drain { arrivals, stopped } =
      { frames := [], error := .none, capture := turn.capture, inbound := turn.inbound
        warnings := turn.warnings } := by
  rw [drain]
  simp only [Capture.next, next]
  split <;> simp_all

/-- Draining ends with the error that a capture yields. -/
theorem drain_of_error {capture : Capture} {stopped : Bool} {arrivals : List Arrival} {turn : Turn}
    {error : Error} (next : capture.nextFrom stopped arrivals = turn)
    (failed : turn.item = some (.error error)) :
    capture.drain { arrivals, stopped } =
      { frames := [], error := some error, capture := turn.capture, inbound := turn.inbound
        warnings := turn.warnings } := by
  rw [drain]
  simp only [Capture.next, next]
  split <;> simp_all

/-- Draining goes on behind a frame that a capture yields. -/
theorem drain_of_frame {capture : Capture} {stopped : Bool} {arrivals : List Arrival} {turn : Turn}
    {frame : CapturedFrame} (next : capture.nextFrom stopped arrivals = turn)
    (yielded : turn.item = some (.ok frame)) :
    capture.drain { arrivals, stopped } =
      let rest := turn.capture.drain turn.inbound
      { rest with frames := frame :: rest.frames, warnings := turn.warnings ++ rest.warnings } := by
  rw [drain]
  simp only [Capture.next, next]
  split <;> simp_all

/-- A capture that is over drains to nothing. -/
theorem drain_of_isOver {capture : Capture} (isOver : capture.isOver = true) (inbound : Inbound) :
    capture.drain inbound =
      { frames := [], error := none, capture := { capture with finished := true }, inbound
        warnings := [] } :=
  drain_of_none (nextFrom_of_isOver isOver inbound.stopped inbound.arrivals) rfl

/-- An open capture that nothing is left for drains to the failure at the end of the script. -/
theorem drain_nil {capture : Capture} {stopped : Bool} (isOpen : capture.IsOpen stopped) :
    capture.drain { arrivals := [], stopped } =
      { frames := [], error := some (.ofSocket Inbound.exhausted capture.interface)
        capture := { capture with finished := true }
        inbound := { arrivals := [], stopped }, warnings := [] } :=
  drain_of_error (nextFrom_nil isOpen) rfl

section Cons

variable {capture after : Capture} {stopped : Bool} {arrival : Arrival} {warnings : List Warning}

/-- A reception that makes no item only changes the capture and warns. -/
theorem drain_cons_of_none (isOpen : capture.IsOpen stopped)
    (received : capture.receive arrival.reception = (none, after, warnings))
    (rest : List Arrival) :
    capture.drain { arrivals := arrival :: rest, stopped } =
      let drained := after.drain { arrivals := rest, stopped := stopped || arrival.stops }
      { drained with warnings := warnings ++ drained.warnings } := by
  have turn := nextFrom_cons_of_none isOpen received rest
  cases item : (after.nextFrom (stopped || arrival.stops) rest).item with
  | none => rw [drain_of_none turn item, drain_of_none rfl item]
  | some made =>
    cases made with
    | error error => rw [drain_of_error turn item, drain_of_error rfl item]
    | ok frame =>
      rw [drain_of_frame turn item, drain_of_frame rfl item]
      simp only [List.append_assoc]

/-- A reception that makes a frame puts it before what is drained later. -/
theorem drain_cons_of_frame {frame : CapturedFrame} (isOpen : capture.IsOpen stopped)
    (received : capture.receive arrival.reception = (some (.ok frame), after, warnings))
    (rest : List Arrival) :
    capture.drain { arrivals := arrival :: rest, stopped } =
      let drained := after.drain { arrivals := rest, stopped := stopped || arrival.stops }
      { drained with frames := frame :: drained.frames
                     warnings := warnings ++ drained.warnings } :=
  drain_of_frame (nextFrom_cons_of_some isOpen received rest) rfl

/-- A reception that makes an error is the last one drained. -/
theorem drain_cons_of_error {error : Error} (isOpen : capture.IsOpen stopped)
    (received : capture.receive arrival.reception = (some (.error error), after, warnings))
    (rest : List Arrival) :
    capture.drain { arrivals := arrival :: rest, stopped } =
      { frames := [], error := some error, capture := after
        inbound := { arrivals := rest, stopped := stopped || arrival.stops }, warnings } :=
  drain_of_error (nextFrom_cons_of_some isOpen received rest) rfl

end Cons

end PcmLink.Capture
