import PcmLink.Proofs.Capture.Steps
import PcmLink.Proofs.Frame

/-!
# Verdicts on receptions

What a reception is to a capture depends only on what the capture is to collect, not on what came
before: `CaptureOptions.verdict` says it from the bytes of a frame and the kind of a failure. Each
verdict fixes what `Capture.receive` does, as long as the length of a header and a trailer is a
machine word.
-/

namespace PcmLink

/-- What a reception is to a capture. -/
inductive Verdict where
  /-- A failure that may pass; the receive is tried again. -/
  | retried
  /-- A frame of so many bytes, too few for a header and a trailer. -/
  | short (length : Nat)
  /-- A frame of another type than the wanted one. -/
  | foreign
  /-- A frame to yield. -/
  | kept (bytes : List UInt8)
  /-- A failure that ends the capture. -/
  | fatal (failure : IoError)
  deriving DecidableEq

namespace Verdict

/-- The reception is one of those that a capture is to receive. -/
def counts : Verdict → Bool
  | .short _ | .kept _ => true
  | _ => false

/-- The bytes of a frame to yield. -/
def kept? : Verdict → Option (List UInt8)
  | .kept bytes => some bytes
  | _ => none

/-- The failure that ends a capture. -/
def fatal? : Verdict → Option IoError
  | .fatal failure => some failure
  | _ => none

end Verdict

/-- The kinds of failure that may pass. -/
def passingKinds : List IoKind := [.timedOut, .wouldBlock, .interrupted]

namespace CaptureOptions

/-- What a reception is to a capture with these options. -/
def verdict (options : CaptureOptions) : Reception → Verdict
  | .failure failure => if failure.kind ∈ passingKinds then .retried else .fatal failure
  | .frame bytes =>
    if bytes.length < 14 + options.trailerLength.toNat then .short bytes.length
    else if options.wanted.any fun wanted => (bytes.drop 12).take 2 != wanted.bytes then .foreign
    else .kept bytes

/-- The bytes of a frame between its header and its trailer. -/
def payloadOf (options : CaptureOptions) (bytes : List UInt8) : List UInt8 :=
  (bytes.take (bytes.length - options.trailerLength.toNat)).drop 14

end CaptureOptions

namespace CapturedFrame

variable {trailerLength : UInt64} {raw : List UInt8}

/-- Where the least length is no machine word, no bytes are taken or refused. -/
theorem parse?_of_overflow (beyond : UInt64.size ≤ 14 + trailerLength.toNat) :
    parse? raw trailerLength = none := by
  have uncounted := Frame.lengthWith?_eq_none_iff.mpr beyond
  unfold parse?
  split
  · rfl
  · rename_i counted
    cases uncounted.symm.trans counted

/-- Bytes that do not hold a header and a trailer are refused. -/
theorem parse?_of_lt (inRange : 14 + trailerLength.toNat < UInt64.size)
    (short : raw.length < 14 + trailerLength.toNat) :
    parse? raw trailerLength =
      some (.error (.tooShort raw.length (14 + trailerLength.toNat))) := by
  have length := Frame.lengthWith?_eq_some_iff.mpr ⟨rfl, inRange⟩
  unfold parse?
  split
  · rename_i uncounted
    cases uncounted.symm.trans length
  · rename_i least counted
    obtain rfl := Option.some.inj (counted.symm.trans length)
    rw [dif_pos short]

/-- The bytes of a frame and the length of its trailer. -/
def parts (frame : CapturedFrame) : List UInt8 × UInt64 := (frame.raw, frame.trailerLength)

/-- Bytes that hold both are a frame. -/
theorem exists_parse?_of_le (inRange : 14 + trailerLength.toNat < UInt64.size)
    (long : 14 + trailerLength.toNat ≤ raw.length) :
    ∃ frame, parse? raw trailerLength = some (.ok frame) := by
  have length := Frame.lengthWith?_eq_some_iff.mpr ⟨rfl, inRange⟩
  refine ⟨{ raw, trailerLength, long }, ?_⟩
  unfold parse?
  split
  · rename_i uncounted
    cases uncounted.symm.trans length
  · rename_i least counted
    obtain rfl := Option.some.inj (counted.symm.trans length)
    rw [dif_neg (Nat.not_lt.mpr long)]

/-- A frame is the bytes that it was taken from, and its trailer is as long as was told. -/
theorem parts_of_parse? {frame : CapturedFrame}
    (parsed : parse? raw trailerLength = some (.ok frame)) :
    frame.parts = (raw, trailerLength) := by
  unfold parse? at parsed
  split at parsed
  · cases parsed
  · split at parsed
    · cases parsed
    · obtain rfl := Except.ok.inj (Option.some.inj parsed)
      rfl

/-- The type in the header of a frame is its thirteenth and fourteenth byte. -/
theorem bytes_protocolType (frame : CapturedFrame) :
    frame.protocolType.bytes = (frame.raw.drop 12).take 2 := by
  have long := frame.long
  exact ProtocolType.bytes_ofFront (by simp only [List.length_drop]; omega)

/-- A frame is known by its bytes and the length of its trailer. -/
theorem parts_injective : Function.Injective parts := by
  intro frame other same
  cases frame
  cases other
  obtain ⟨rfl, rfl⟩ := Prod.mk.inj same
  rfl

/-- Frames with the trailer of the options have the payloads of their bytes. -/
theorem map_payload {options : CaptureOptions} {frames : List CapturedFrame}
    {bytes : List (List UInt8)}
    (same : frames.map parts = bytes.map (·, options.trailerLength)) :
    frames.map payload = bytes.map options.payloadOf := by
  let between (parts : List UInt8 × UInt64) : List UInt8 :=
    (parts.1.take (parts.1.length - parts.2.toNat)).drop 14
  have payloads := congrArg (List.map between) same
  rwa [List.map_map, List.map_map] at payloads

/-- Frames are as many bytes as they were taken from. -/
theorem map_raw {trailerLength : UInt64} {frames : List CapturedFrame} {bytes : List (List UInt8)}
    (same : frames.map parts = bytes.map (·, trailerLength)) : frames.map (·.raw) = bytes := by
  have raws := congrArg (List.map Prod.fst) same
  rw [List.map_map, List.map_map] at raws
  exact raws.trans (List.map_id _)

end CapturedFrame

namespace Capture

/-- A frame is foreign exactly if the bytes of its type are not those wanted. -/
theorem isForeign_eq (capture : Capture) (frame : CapturedFrame) :
    capture.isForeign frame =
      capture.options.wanted.any fun wanted => (frame.raw.drop 12).take 2 != wanted.bytes := by
  unfold isForeign
  cases capture.options.wanted with
  | none => rfl
  | some wanted =>
    rw [Option.any_some, ← CapturedFrame.bytes_protocolType frame, Bool.eq_iff_iff]
    simp only [bne_iff_ne, ne_eq]
    exact not_congr ⟨congrArg ProtocolType.bytes, ProtocolType.eq_of_bytes⟩

/-- The failures that are tried again are those of a passing kind. -/
theorem isTransient_eq (failure : IoError) :
    failure.isTransient = decide (failure.kind ∈ passingKinds) := by
  unfold IoError.isTransient
  cases failure.kind <;> rfl

/-- The verdict on a reception fixes what it does to a capture. -/
theorem receive_eq {capture : Capture}
    (inRange : 14 + capture.options.trailerLength.toNat < UInt64.size) (reception : Reception) :
    match capture.options.verdict reception with
    | .retried => capture.receive reception = (none, capture, [])
    | .short length =>
      capture.receive reception =
        (none, { capture with received := capture.received + 1, dropped := capture.dropped + 1 },
          [.droppedFrame (capture.received + 1)
            (.tooShort length (14 + capture.options.trailerLength.toNat))])
    | .foreign =>
      capture.receive reception = (none, { capture with filtered := capture.filtered + 1 }, [])
    | .kept bytes =>
      ∃ frame : CapturedFrame, frame.parts = (bytes, capture.options.trailerLength) ∧
        capture.receive reception =
          (some (.ok frame),
            { capture with received := capture.received + 1, captured := capture.captured + 1 }, [])
    | .fatal failure =>
      capture.receive reception =
        (some (.error (.ofSocket failure capture.interface)), { capture with finished := true },
          []) := by
  cases reception with
  | failure failure =>
    by_cases passing : failure.kind ∈ passingKinds
    · simp [receive, CaptureOptions.verdict, isTransient_eq, passing]
    · simp [receive, CaptureOptions.verdict, isTransient_eq, passing]
  | frame bytes =>
    by_cases short : bytes.length < 14 + capture.options.trailerLength.toNat
    · simp only [CaptureOptions.verdict, if_pos short, receive,
        CapturedFrame.parse?_of_lt inRange short]
    · obtain ⟨frame, parsed⟩ := CapturedFrame.exists_parse?_of_le inRange (Nat.not_lt.mp short)
      have made := CapturedFrame.parts_of_parse? parsed
      have whole : frame.raw = bytes := congrArg Prod.fst made
      have same := capture.isForeign_eq frame
      rw [whole] at same
      simp only [CaptureOptions.verdict, if_neg short, receive, parsed, ← same]
      by_cases foreign : capture.isForeign frame
      · simp only [if_pos foreign]
      · simp only [if_neg foreign]
        exact ⟨frame, made, rfl⟩

end Capture

end PcmLink
