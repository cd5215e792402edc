import PcmLink.Proofs.Capture.Delivery
import PcmLink.Proofs.Recording.Stages
import PcmLink.Proofs.Recording.Stream

/-!
# What a recording gathers

A recording that is never asked to stop, with a trace that nothing goes wrong with, collects what
the account of its script says. If the script delivers enough, that is the payloads of the frames
kept among the first that count.
-/

namespace PcmLink.Recording

/-- A collection is what an account says. -/
structure Collection.Follows (collected : Collection) (settings : CaptureSettings)
    (account : Account) : Prop where
  /-- The error is that of the account. -/
  error : collected.error = account.error settings.options settings.interface
  /-- The stream is made of the payloads of the account. -/
  stream : collected.joined.stream = (account.frames.map settings.options.payloadOf).flatten
  /-- The trace has their lines. -/
  traced : collected.joined.trace.written =
    Trace.lines (account.frames.map settings.options.payloadOf)
  /-- The counters are those of the account. -/
  counters : collected.capture.Agrees account

section Gathering

variable {settings : CaptureSettings} {script : List Reception}

/-- A recording that is never asked to stop collects what the account of its script says. -/
theorem collection_follows (inRange : 14 + settings.trailerLength.toNat < UInt64.size) :
    (collection settings (.ofReceptions script) {}).Follows settings
      (.ofScript settings.options script) := by
  have settles := Capture.settles_ofScript settings.options settings.interface true script inRange
  have frames := settles.frames.symm
  rw [List.map_nil, List.nil_append] at frames
  have payloads := CapturedFrame.map_payload frames
  have collected : collection settings (.ofReceptions script) {} = _ :=
    collect_eq_drain _ _ rfl
  rw [collected]
  exact {
    error := settles.error
    stream := by
      dsimp only [Reassembly.extended]
      rw [payloads, List.nil_append]
    traced := by
      dsimp only [Reassembly.extended]
      rw [payloads]
      rfl
    counters := settles.counters }

/-- A recording follows the script to the payloads of its first frames that count. -/
theorem collection_of_delivers (inRange : 14 + settings.trailerLength.toNat < UInt64.size)
    (delivers : settings.options.Delivers script) :
    let collected := collection settings (.ofReceptions script) {}
    let payloads := settings.options.payloads script
    collected.joined.stream = payloads.flatten ∧
      collected.joined.trace.written = Trace.lines payloads ∧
      collected.samples = Samples.ofStream .big .big payloads.flatten ∧
      collected.capture.received = settings.count ∧
      collected.capture.captured = payloads.length ∧
      collected.capture.received = collected.capture.captured + collected.capture.dropped := by
  intro collected payloads
  have follows : collected.Follows settings (.ofScript settings.options script) :=
    collection_follows inRange
  have audits := Account.audits_ofScript settings.options script
  have enough := (audits.delivers_iff.mp delivers).2
  have kept := audits.map_payloadOf enough
  have stream : collected.joined.stream = payloads.flatten := by
    rw [follows.stream, kept]
  refine ⟨stream, ?_, ?_, ?_, ?_, ?_⟩
  · rw [follows.traced, kept]
  · rw [Collection.samples, stream]
    exact Samples.ofStream_host ..
  · rw [follows.counters.received]
    exact Nat.le_antisymm audits.received_le enough
  · rw [follows.counters.captured, audits.captured, ← List.length_map settings.options.payloadOf,
      kept]
  · rw [follows.counters.received, follows.counters.captured, follows.counters.dropped,
      audits.received_eq]

/-- A recording collects without an error exactly if the script delivers enough. -/
theorem collection_unfailed_iff (inRange : 14 + settings.trailerLength.toNat < UInt64.size) :
    (collection settings (.ofReceptions script) {}).error = none ↔
      settings.options.Delivers script := by
  have follows : (collection settings (.ofReceptions script) {}).Follows settings
      (.ofScript settings.options script) := collection_follows inRange
  rw [follows.error]
  exact Account.error_eq_none_iff ..

end Gathering

end PcmLink.Recording
