import PcmLink.Proofs.Capture.Foreign
import PcmLink.Proofs.Capture.Polling
import PcmLink.Proofs.CommandLine

/-!
# Captured frames within their bounds

The view of a captured frame looks at fixed places of its bytes and at the place where the trailer
begins. None of them is out of bounds, because a frame holds a header and a trailer. What can fail
is the sum of the two lengths that received bytes are compared with: the command line takes every
machine word for the length of a trailer. Where the sum is no machine word, no bytes are taken and
none are refused, and a capture is given up with the first frame that it receives.
-/

namespace PcmLink

/-- The bytes from one place to another, unless the places are out of order or out of bounds. -/
def Octets.slice? (bytes : List UInt8) (first last : Nat) : Option (List UInt8) :=
  if first ≤ last ∧ last ≤ bytes.length then some ((bytes.take last).drop first) else none

namespace CapturedFrame

/-- The header, if each of its fields is within the bytes. -/
def header? (frame : CapturedFrame) : Option Frame := do
  let destination ← Octets.slice? frame.raw 0 6
  let source ← Octets.slice? frame.raw 6 12
  let protocolType ← Octets.slice? frame.raw 12 14
  let payload ← Octets.slice? frame.raw 14 frame.raw.length
  (Frame.ofFields destination source protocolType payload).toOption

/-- The payload, if the trailer is no longer than the frame and begins behind the header. -/
def payload? (frame : CapturedFrame) : Option (List UInt8) :=
  if frame.trailerLength.toNat ≤ frame.raw.length then
    Octets.slice? frame.raw 14 (frame.raw.length - frame.trailerLength.toNat)
  else none

/-- Nothing that the view of the frame looks at is out of bounds. -/
structure InBounds (frame : CapturedFrame) : Prop where
  /-- The fields of the header are within the bytes. -/
  header : frame.header? = some frame.header
  /-- The payload is within the bytes. -/
  payload : frame.payload? = some frame.payload

section Bounds

variable (frame : CapturedFrame)

/-- The fields of the header are within bytes that hold one. -/
theorem header?_eq (long : 14 ≤ frame.raw.length) : frame.header? = some frame.header := by
  have found (first last : Nat) (inside : first ≤ last ∧ last ≤ frame.raw.length) :
      Octets.slice? frame.raw first last = some ((frame.raw.take last).drop first) := if_pos inside
  rw [header?, found 0 6 (by omega), found 6 12 (by omega), found 12 14 (by omega),
    found 14 frame.raw.length (by omega), List.take_length, header]
  match frame.raw, long with
  | _ :: _ :: _ :: _ :: _ :: _ :: _ :: _ :: _ :: _ :: _ :: _ :: _ :: _ :: _, _ => rfl

/-- Nothing that the view of a frame looks at is out of bounds. -/
theorem inBounds : frame.InBounds where
  header := frame.header?_eq (by have long := frame.long; omega)
  payload := by
    have long := frame.long
    have trailed : frame.trailerLength.toNat ≤ frame.raw.length := by omega
    rw [payload?, if_pos trailed, Octets.slice?, if_pos (by omega), payload, Frame.headerWidth]

/-- The payload of a frame is as many bytes behind the header as are not the trailer. -/
theorem payload_eq_take :
    frame.payload =
      (frame.raw.drop 14).take (frame.raw.length - 14 - frame.trailerLength.toNat) := by
  rw [payload, Frame.headerWidth, List.drop_take, Nat.sub_right_comm]

end Bounds

end CapturedFrame

namespace Capture

section Overflow

variable {capture : Capture}

/-- A capture is given up by a frame exactly if the least length is no machine word. -/
theorem receive_frame_eq_overflow_iff (bytes : List UInt8) :
    (capture.receive (.frame bytes)).1 = some (.error .overflow) ↔
      UInt64.size ≤ 14 + capture.options.trailerLength.toNat := by
  constructor
  · intro overflowed
    refine Nat.le_of_not_lt fun inRange => ?_
    simp only [receive] at overflowed
    split at overflowed
    · rename_i nothing
      by_cases short : bytes.length < 14 + capture.options.trailerLength.toNat
      · cases nothing.symm.trans (CapturedFrame.parse?_of_lt inRange short)
      · obtain ⟨frame, parsed⟩ :=
          CapturedFrame.exists_parse?_of_le inRange (Nat.not_lt.mp short)
        cases nothing.symm.trans parsed
    · cases overflowed
    · split at overflowed <;> cases overflowed
  · intro beyond
    simp only [receive, CapturedFrame.parse?_of_overflow beyond]

/-- A reception gives a capture up only if the least length is no machine word. -/
theorem beyond_of_receive {reception : Reception}
    (overflowed : (capture.receive reception).1 = some (.error .overflow)) :
    UInt64.size ≤ 14 + capture.options.trailerLength.toNat := by
  cases reception with
  | failure failure =>
    simp only [receive] at overflowed
    split at overflowed
    · cases overflowed
    · have told := Except.error.inj (Option.some.inj overflowed)
      exact absurd told (Error.ofSocket_ne_overflow failure capture.interface)
  | frame bytes => exact (receive_frame_eq_overflow_iff bytes).mp overflowed

/-- A call gives a capture up only if the least length is no machine word. -/
theorem beyond_of_nextFrom {stopped : Bool} {arrivals : List Arrival}
    (overflowed : (capture.nextFrom stopped arrivals).item = some (.error .overflow)) :
    UInt64.size ≤ 14 + capture.options.trailerLength.toNat := by
  fun_induction capture.nextFrom stopped arrivals with
  | case1 | case2 => cases overflowed
  | case3 capture =>
    have told := Except.error.inj (Option.some.inj overflowed)
    exact absurd told (Error.ofSocket_ne_overflow Inbound.exhausted capture.interface)
  | case4 capture stopped _ _ arrival rest _ item after warnings received =>
    apply beyond_of_receive
    rw [received]
    exact overflowed
  | case5 capture stopped _ _ arrival rest _ after warnings received turn ih =>
    have options := capture.options_receive arrival.reception
    rw [received] at options
    rw [← options]
    exact ih overflowed

/-- A capture is given up on the way only if the least length is no machine word. -/
theorem beyond_of_drain {inbound : Inbound}
    (overflowed : (capture.drain inbound).error = some .overflow) :
    UInt64.size ≤ 14 + capture.options.trailerLength.toNat := by
  fun_induction capture.drain inbound with
  | case1 => cases overflowed
  | case2 capture inbound turn error failed =>
    rw [Option.some.inj overflowed] at failed
    exact beyond_of_nextFrom failed
  | case3 capture inbound turn frame yielded rest ih =>
    have options := (capture.keeps_nextFrom inbound.stopped inbound.arrivals).1.options
    rw [← options]
    exact ih overflowed

/-- An open capture whose least length is no machine word is given up by the first frame. -/
theorem nextFrom_of_overflow (beyond : UInt64.size ≤ 14 + capture.options.trailerLength.toNat)
    {stopped : Bool} (isOpen : capture.IsOpen stopped) (bytes : List UInt8) (stops : Bool)
    (rest : List Arrival) :
    (capture.nextFrom stopped ({ reception := .frame bytes, stops } :: rest)).item =
      some (.error .overflow) := by
  have overflowed := (receive_frame_eq_overflow_iff bytes).mpr beyond
  rcases received : capture.receive (.frame bytes) with ⟨item, after, warnings⟩
  rw [received] at overflowed
  obtain rfl : item = some (.error .overflow) := overflowed
  rw [nextFrom_cons_of_some isOpen received]

end Overflow

/-- Received bytes are refused as too short exactly if they are shorter than a header and the
trailer, exactly if the sum of the two lengths is a machine word; otherwise none are taken or
refused, and every capture is given up by the first frame that it receives. Whatever is taken for a
frame is within its bounds, and its payload is as many bytes behind the header as are not the
trailer. The command line takes every machine word for the length of the trailer, and the capture
uses it. -/
theorem frames_within_bounds_iff (trailerLength : UInt64) :
    ((∀ raw,
      (∃ length needed,
        CapturedFrame.parse? raw trailerLength = some (.error (.tooShort length needed))) ↔
          raw.length < 14 + trailerLength.toNat) ↔
      14 + trailerLength.toNat < UInt64.size) ∧
    ((∀ raw, CapturedFrame.parse? raw trailerLength = none) ↔
      UInt64.size ≤ 14 + trailerLength.toNat) ∧
    (∀ raw frame, CapturedFrame.parse? raw trailerLength = some (.ok frame) →
      frame.raw = raw ∧ frame.InBounds ∧
        frame.payload.length = raw.length - 14 - trailerLength.toNat ∧
        frame.payload = (raw.drop 14).take (raw.length - 14 - trailerLength.toNat)) ∧
    ((∀ capture : Capture, capture.options.trailerLength = trailerLength →
      ∀ inbound, (capture.drain inbound).error ≠ some .overflow) ↔
      14 + trailerLength.toNat < UInt64.size) ∧
    (UInt64.size ≤ 14 + trailerLength.toNat → ∀ capture : Capture, capture.options.trailerLength = trailerLength →
      ∀ stopped, capture.IsOpen stopped → ∀ bytes stops rest,
        (capture.nextFrom stopped ({ reception := .frame bytes, stops } :: rest)).item =
          some (.error .overflow)) ∧
    ∃ arguments,
      CommandLine.read Record.rules [] {} ["--trailer-len", toString trailerLength.toNat] =
        .read arguments ∧
      ∀ settings, (arguments.apply settings).trailerLength = trailerLength := by
  have nothing (beyond : UInt64.size ≤ 14 + trailerLength.toNat) (raw : List UInt8) :
      CapturedFrame.parse? raw trailerLength = none :=
    CapturedFrame.parse?_of_overflow beyond
  refine ⟨⟨fun exact => ?_, fun fits raw => ?_⟩, ⟨fun none_taken => ?_, nothing⟩, ?_,
    ⟨fun unfailing => ?_, fun fits => ?_⟩, ?_, ?_⟩
  · refine Nat.lt_of_not_le fun beyond => ?_
    obtain ⟨length, needed, refused⟩ :=
      (exact []).mpr (Nat.lt_of_lt_of_le (by decide) (Nat.le_add_right 14 _))
    cases refused.symm.trans (nothing beyond [])
  · constructor
    · rintro ⟨length, needed, refused⟩
      refine Nat.lt_of_not_le fun long => ?_
      obtain ⟨frame, parsed⟩ := CapturedFrame.exists_parse?_of_le fits long
      cases refused.symm.trans parsed
    · exact fun short => ⟨_, _, CapturedFrame.parse?_of_lt fits short⟩
  · refine Nat.le_of_not_lt fun fits => ?_
    have refused := CapturedFrame.parse?_of_lt fits
      (Nat.lt_of_lt_of_le (by decide) (Nat.le_add_right 14 _) : ([] : List UInt8).length < _)
    cases refused.symm.trans (none_taken [])
  · intro raw frame parsed
    obtain ⟨rfl, rfl⟩ := Prod.mk.inj (CapturedFrame.parts_of_parse? parsed)
    refine ⟨rfl, frame.inBounds, ?_, frame.payload_eq_take⟩
    rw [frame.payload_eq_take, List.length_take, List.length_drop]
    exact Nat.min_eq_left (Nat.sub_le _ _)
  · refine Nat.lt_of_not_le fun beyond => ?_
    let capture : Capture := { interface := "eth0", options := { count := 1, trailerLength } }
    have isOpen : capture.IsOpen false := ⟨rfl, rfl⟩
    have overflowed := nextFrom_of_overflow beyond isOpen [] false []
    exact unfailing capture rfl { arrivals := [{ reception := .frame [] }] }
      (congrArg Rest.error (drain_of_error rfl overflowed))
  · rintro capture rfl inbound overflowed
    exact Nat.not_le.mpr fits (beyond_of_drain overflowed)
  · rintro beyond capture rfl stopped isOpen bytes stops rest
    exact nextFrom_of_overflow beyond isOpen bytes stops rest
  · refine ⟨_, Record.read_trailerLength trailerLength, fun settings => ?_⟩
    exact UInt64.ofNat_toNat

/-- With four bytes of trailer twenty bytes are taken, two of them as the payload, and no capture is
given up. With the greatest trailer that the command line takes the same bytes are neither taken nor
refused, and some capture is given up. -/
theorem frames_within_bounds_iff_greatest :
    let raw : List UInt8 := List.replicate 14 0 ++ [1, 2] ++ List.replicate 4 0xfc
    let greatest : UInt64 := 18446744073709551615
    (∃ frame, CapturedFrame.parse? raw 4 = some (.ok frame) ∧ frame.payload = [1, 2]) ∧
    (∀ inbound, (drain { interface := "eth0" } inbound).error ≠ some .overflow) ∧
    (∃ arguments, CommandLine.read Record.rules [] {} ["--trailer-len", "18446744073709551615"] =
      .read arguments) ∧
    CapturedFrame.parse? raw greatest = none ∧
    ¬ ∀ capture : Capture, capture.options.trailerLength = greatest →
      ∀ inbound, (capture.drain inbound).error ≠ some .overflow := by
  intro raw greatest
  obtain ⟨_, _, taken, unfailing, _, _⟩ := frames_within_bounds_iff 4
  obtain ⟨_, untaken, _, failing, _, arguments, read, _⟩ :=
    frames_within_bounds_iff 18446744073709551615
  obtain ⟨frame, parsed⟩ :=
    CapturedFrame.exists_parse?_of_le (show 14 + (4 : UInt64).toNat < UInt64.size by decide)
      (show _ ≤ raw.length by decide)
  have text : toString (18446744073709551615 : UInt64).toNat = "18446744073709551615" := by decide
  rw [text] at read
  exact ⟨⟨frame, parsed, (taken raw frame parsed).2.2.2⟩,
    (unfailing.mpr (by decide)) { interface := "eth0" } rfl, ⟨arguments, read⟩,
    untaken.mpr (by decide) raw, mt failing.mp (by decide)⟩

end Capture

end PcmLink
