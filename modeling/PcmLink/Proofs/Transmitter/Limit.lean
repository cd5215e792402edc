import PcmLink.Proofs.Transmitter.Sending

/-!
# The longest frame that is sent

A transmitter is told the longest payload and compares the length of each frame with that of the
longest frame, a header more. While the sum is a machine word, just the frames are refused whose
payloads are longer than the longest. For the fourteen greatest payload limits it is none, and every
send is given up, however short the frame. Nothing else that a transmitter does is given up.
-/

namespace PcmLink.Transmitter

/-- A frame was refused as too long. -/
def TooLong (result : Except Error Nat) : Prop :=
  ∃ length limit, result = .error (.frameTooLong length limit)

section Refusals

variable {transmitter : Transmitter} {station : Station} {bytes : List UInt8}

/-- Bytes that are admitted are not refused as too long. -/
theorem not_tooLong_of_admits (admitted : transmitter.Admits bytes) :
    ¬ TooLong (transmitter.send bytes station).1 := by
  rintro ⟨length, limit, refused⟩
  rcases result_of_admits admitted with whole | ⟨sent, cut⟩ | ⟨failure, failed⟩
  · rw [whole] at refused
    cases refused
  · rw [cut] at refused
    cases refused
  · rw [failed] at refused
    have fatal := Error.isFatal_ofSocket failure transmitter.interface
    rw [Except.error.inj refused] at fatal
    cases fatal

/-- The send of bytes that are admitted is not given up. -/
theorem send_ne_overflow_of_admits (admitted : transmitter.Admits bytes) :
    (transmitter.send bytes station).1 ≠ .error .overflow := by
  intro givenUp
  rcases result_of_admits admitted with whole | ⟨sent, cut⟩ | ⟨failure, failed⟩
  · rw [whole] at givenUp
    cases givenUp
  · rw [cut] at givenUp
    cases givenUp
  · rw [failed] at givenUp
    exact Error.ofSocket_ne_overflow failure transmitter.interface (Except.error.inj givenUp)

/-- Bytes are refused as too long exactly if they are more than those of the longest frame, whose
length is a machine word. -/
theorem tooLong_send_iff :
    TooLong (transmitter.send bytes station).1 ↔
      let limit := 14 + transmitter.payloadLimit.toNat
      limit < UInt64.size ∧ limit < bytes.length := by
  by_cases admitted : transmitter.Admits bytes
  · constructor
    · intro refused
      exact absurd refused (not_tooLong_of_admits admitted)
    · intro beyond
      exact absurd admitted.2 (Nat.not_le.mpr beyond.2)
  · rw [send_of_not_admits admitted, refusal]
    by_cases inRange : 14 + transmitter.payloadLimit.toNat < UInt64.size
    · rw [if_pos inRange]
      have long := Nat.lt_of_not_le fun short => admitted ⟨inRange, short⟩
      exact ⟨fun _ => ⟨inRange, long⟩, fun _ => ⟨_, _, rfl⟩⟩
    · rw [if_neg inRange]
      constructor
      · rintro ⟨length, limit, refused⟩
        cases refused
      · intro beyond
        exact absurd beyond.1 inRange

/-- Bytes that are refused as too long are refused with both lengths, before the link is touched. -/
theorem send_of_tooLong (refused : TooLong (transmitter.send bytes station).1) :
    transmitter.send bytes station =
      (.error (.frameTooLong bytes.length (14 + transmitter.payloadLimit.toNat)), station) := by
  obtain ⟨inRange, long⟩ := tooLong_send_iff.mp refused
  have barred : ¬ transmitter.Admits bytes := fun admitted => Nat.not_le.mpr long admitted.2
  rw [send_of_not_admits barred, refusal, if_pos inRange]

/-- A send is given up exactly if the length of the longest frame is no machine word. -/
theorem send_eq_overflow_iff :
    (transmitter.send bytes station).1 = .error .overflow ↔
      UInt64.size ≤ 14 + transmitter.payloadLimit.toNat := by
  constructor
  · intro givenUp
    apply Nat.le_of_not_lt
    intro inRange
    by_cases short : bytes.length ≤ 14 + transmitter.payloadLimit.toNat
    · exact send_ne_overflow_of_admits ⟨inRange, short⟩ givenUp
    · rw [send_of_tooLong (tooLong_send_iff.mpr ⟨inRange, Nat.lt_of_not_le short⟩)] at givenUp
      cases givenUp
  · intro beyond
    rw [send_of_overflow beyond]

end Refusals

/-- The length of the longest frame is a header more than the longest payload exactly if that is a
machine word. Exactly then no send is given up and the frames that are refused as too long are those
whose payloads are longer than the longest. Otherwise there is no such length, and the send of any
frame is given up before the link is touched. A refusal tells both lengths and leaves the link
alone. -/
theorem payload_limit_exact_iff (transmitter : Transmitter) :
    let inRange := 14 + transmitter.payloadLimit.toNat < UInt64.size
    (transmitter.frameLimit? = some (14 + transmitter.payloadLimit.toNat) ↔ inRange) ∧
    ((∀ (frame : Frame) station,
      let result := (transmitter.send frame.bytes station).1
      result ≠ .error .overflow ∧
        (TooLong result ↔ transmitter.payloadLimit.toNat < frame.payload.length)) ↔ inRange) ∧
    (¬ inRange → transmitter.frameLimit? = none ∧
      ∀ (frame : Frame) station,
        transmitter.send frame.bytes station = (.error .overflow, station)) ∧
    ∀ (frame : Frame) station, TooLong (transmitter.send frame.bytes station).1 →
      transmitter.send frame.bytes station =
        (.error (.frameTooLong frame.bytes.length (14 + transmitter.payloadLimit.toNat)),
          station) := by
  intro inRange
  have exists_iff : transmitter.frameLimit? = some (14 + transmitter.payloadLimit.toNat) ↔
      inRange := by
    rw [frameLimit?, Frame.lengthWith?_eq_some_iff]
    exact and_iff_right rfl
  refine ⟨exists_iff, ⟨fun exact => ?_, fun fits frame station => ?_⟩, fun beyond => ?_,
    fun _ _ => send_of_tooLong⟩
  · apply Decidable.byContradiction
    intro beyond
    let least : Frame :=
      { destination := .zero, source := .zero, protocolType := .bench, payload := [] }
    exact (exact least {}).1 (send_eq_overflow_iff.mpr (Nat.not_lt.mp beyond))
  · refine ⟨fun givenUp => Nat.not_lt.mpr (send_eq_overflow_iff.mp givenUp) fits, ?_⟩
    rw [tooLong_send_iff, and_iff_right fits, frame.length_bytes]
    omega
  · have wide := Nat.not_lt.mp beyond
    exact ⟨Frame.lengthWith?_eq_none_iff.mpr wide, fun _ _ => send_of_overflow wide⟩

/-- The greatest limit that is exact, the limit after it and the greatest limit of all. -/
theorem payload_limit_exact_iff_edges :
    let least : Frame :=
      { destination := .zero, source := .zero, protocolType := .bench, payload := [] }
    let limited (payloadLimit : UInt64) : Transmitter :=
      { interface := "eth0", payloadLimit, frame := least }
    (∀ (frame : Frame) station,
      TooLong ((limited 18446744073709551601).send frame.bytes station).1 ↔
        18446744073709551601 < frame.payload.length) ∧
    (∀ (frame : Frame) station,
      (limited 18446744073709551602).send frame.bytes station = (.error .overflow, station)) ∧
    (limited 18446744073709551615).send least.bytes {} = (.error .overflow, {}) := by
  intro least limited
  obtain ⟨_, exact, _, _⟩ := payload_limit_exact_iff (limited 18446744073709551601)
  obtain ⟨_, _, beyond, _⟩ := payload_limit_exact_iff (limited 18446744073709551602)
  obtain ⟨_, _, greatest, _⟩ := payload_limit_exact_iff (limited 18446744073709551615)
  have told := exact.mpr (by decide)
  have givenUp := (beyond (by decide)).2
  exact ⟨fun frame station => (told frame station).2, givenUp,
    (greatest (by decide)).2 least {}⟩

section GivenUp

variable {transmitter : Transmitter} {station : Station}

/-- An option is read or refused. -/
theorem parse_ne_overflow (option : String) : LinkSpeed.parse option ≠ .error .overflow := by
  unfold LinkSpeed.parse
  dsimp only
  split
  · nofun
  · split
    · nofun
    · nofun

/-- The control tells of its failures. -/
theorem request_ne_overflow (interface : String) (speed : LinkSpeed) :
    (station.request interface speed).1 ≠ .error .overflow := by
  unfold Station.request
  cases station.control with
  | nil => nofun
  | cons result rest =>
    cases result with
    | ok => nofun
    | error told =>
      intro givenUp
      exact told.2 (Except.error.inj givenUp)

/-- Forcing a speed is not given up. -/
theorem setSpeed_ne_overflow (interface option : String) :
    (station.setSpeed interface option).1 ≠ .error .overflow := by
  intro givenUp
  unfold Station.setSpeed at givenUp
  split at givenUp
  · rename_i error refused
    have same : error = .overflow := Except.error.inj givenUp
    exact parse_ne_overflow option (same ▸ refused)
  · rename_i speed _
    have told := @request_ne_overflow station interface speed
    split at givenUp
    · rename_i error _ asked
      have same : error = .overflow := Except.error.inj givenUp
      rw [asked, same] at told
      exact told rfl
    · cases givenUp

/-- A result that is looked at no further has failed only if it had before. -/
theorem eq_error_of_map {α : Type} {result : Except Error α} {error : Error}
    (failed : (result.map fun _ => ()) = .error error) : result = .error error := by
  cases result with
  | ok value => cases failed
  | error cause => rw [Except.error.inj failed]

/-- A command is given up only if the length of the longest frame is no machine word. -/
theorem beyond_of_handle_overflow {command : Command}
    (givenUp : (transmitter.handle command station).1 = .error .overflow) :
    UInt64.size ≤ 14 + transmitter.payloadLimit.toNat := by
  cases command with
  | sendNow => exact send_eq_overflow_iff.mp (eq_error_of_map givenUp)
  | setSpeed option =>
    exact absurd (eq_error_of_map givenUp) (setSpeed_ne_overflow transmitter.interface option)

/-- A line is given up only if the length of the longest frame is no machine word. -/
theorem beyond_of_obey_overflow {line : String}
    (givenUp : (transmitter.obey line station).1 = some (.error .overflow)) :
    UInt64.size ≤ 14 + transmitter.payloadLimit.toNat := by
  unfold obey at givenUp
  split at givenUp
  · cases givenUp
  · exact beyond_of_handle_overflow (eq_error_of_survive givenUp)

end GivenUp

end PcmLink.Transmitter
