import PcmLink.Proofs.Capture.Steps
import PcmLink.Proofs.Reassembly.Recovery
import PcmLink.Recording

/-!
# Streams of recordings

A trace without a limit never stops a recording, so the recording collects what its capture yields
on its own: the payloads one after the other in the stream, and a line for each in the trace.
-/

namespace PcmLink

namespace Recording

/-- With a trace that has no limit a recording collects what its capture drains to. -/
theorem collect_eq_drain (capture : Capture) (inbound : Inbound) {joined : Reassembly}
    (unlimited : joined.trace.limit = none) :
    collect capture joined inbound =
      let rest := capture.drain inbound
      { error := rest.error, capture := rest.capture, inbound := rest.inbound
        joined := joined.extended (rest.frames.map CapturedFrame.payload)
        warnings := rest.warnings } := by
  fun_induction collect capture joined inbound with
  | case1 capture joined inbound turn ended =>
    have drained : capture.drain inbound = _ := Capture.drain_of_none rfl ended
    rw [drained]
    simp [Reassembly.extended, Trace.lines, turn, Capture.next]
  | case2 capture joined inbound turn error failed =>
    have drained : capture.drain inbound = _ := Capture.drain_of_error rfl failed
    rw [drained]
    simp [Reassembly.extended, Trace.lines, turn, Capture.next]
  | case3 capture joined inbound turn frame yielded failure after pushed =>
    -- The trace is the only thing that can fail here, and it has no limit.
    rw [Reassembly.push_eq_extended unlimited] at pushed
    cases (Prod.mk.inj pushed).1
  | case4 capture joined inbound turn frame yielded after pushed rest ih =>
    rw [Reassembly.push_eq_extended unlimited] at pushed
    obtain ⟨_, rfl⟩ := Prod.mk.inj pushed
    have drained : capture.drain inbound = _ := Capture.drain_of_frame rfl yielded
    rw [drained]
    dsimp only
    rw [List.map_cons, Reassembly.extended_cons]
    simp only [rest, ih unlimited]
    rfl

end Recording

end PcmLink
