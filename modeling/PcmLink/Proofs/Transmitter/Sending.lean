import PcmLink.Proofs.Frame
import PcmLink.Transmitter

/-!
# Frames sent one after the other

A link that takes whole frames puts each on the wire as it is, so frames that a transmitter admits
reach the wire in the order they are sent. It admits the frames that are no longer than the longest,
if that length is a machine word; for a payload limit too close to the largest word it is none, and
then every send is given up. Behind a send an activity goes on unless the error is fatal.
-/

namespace PcmLink

/-- A link that does not fail and takes each of the frames in a whole. -/
structure Outbound.TakesWhole (outbound : Outbound) (frames : List (List UInt8)) : Prop where
  /-- No write fails. -/
  accepted (outcome : WriteOutcome) (met : outcome ∈ outbound.outcomes) : outcome = .accepted
  /-- No frame is longer than the link takes. -/
  room (bytes : List UInt8) (sent : bytes ∈ frames) (longest : Nat)
    (limited : outbound.longest = some longest) : bytes.length ≤ longest

/-- A frame that is taken in a whole is put on the wire. -/
theorem Outbound.TakesWhole.write {outbound : Outbound} {bytes : List UInt8}
    {frames : List (List UInt8)} (takes : outbound.TakesWhole (bytes :: frames)) :
    ∃ after, outbound.write bytes = (.ok bytes.length, after) ∧
      after.wire = outbound.wire ++ [bytes] ∧ after.TakesWhole frames := by
  have whole : outbound.taken bytes = bytes := by
    unfold Outbound.taken
    split
    · rfl
    · rename_i longest limited
      exact List.take_of_length_le (takes.room bytes List.mem_cons_self longest limited)
  have rest (bytes : List UInt8) (sent : bytes ∈ frames) (longest : Nat)
      (limited : outbound.longest = some longest) : bytes.length ≤ longest :=
    takes.room bytes (List.mem_cons_of_mem _ sent) longest limited
  have same (later : List WriteOutcome) :
      ({ outbound with
        outcomes := later, handed := outbound.handed ++ [bytes] } : Outbound).taken bytes = bytes :=
    whole
  cases outcomes : outbound.outcomes with
  | nil =>
    refine ⟨{ outbound with
      wire := outbound.wire ++ [bytes], handed := outbound.handed ++ [bytes] }, ?_, rfl,
      takes.accepted, rest⟩
    simp only [Outbound.write, Outbound.meet, outcomes, transmit, same []]
  | cons outcome later =>
    have accepted := takes.accepted outcome (outcomes ▸ List.mem_cons_self)
    have others (outcome : WriteOutcome) (met : outcome ∈ later) : outcome = .accepted :=
      takes.accepted outcome (outcomes ▸ List.mem_cons_of_mem _ met)
    refine ⟨{ outbound with
      outcomes := later, wire := outbound.wire ++ [bytes]
      handed := outbound.handed ++ [bytes] }, ?_, rfl, others, rest⟩
    simp only [Outbound.write, Outbound.meet, outcomes, accepted, transmit, same later]

/-- Counting a write leaves the link alone. -/
theorem Station.outbound_countWrite (station : Station) :
    station.countWrite.outbound = station.outbound := by
  unfold countWrite
  split
  · split <;> rfl
  · rfl

namespace Transmitter

/-- The bytes are no more than those of the longest frame, whose length is a machine word. -/
def Admits (transmitter : Transmitter) (bytes : List UInt8) : Prop :=
  let limit := 14 + transmitter.payloadLimit.toNat
  limit < UInt64.size ∧ bytes.length ≤ limit

instance (transmitter : Transmitter) (bytes : List UInt8) : Decidable (transmitter.Admits bytes) :=
  inferInstanceAs (Decidable (_ ∧ _))

/-- What the send of bytes comes to that are not admitted. -/
def refusal (transmitter : Transmitter) (bytes : List UInt8) : Error :=
  let limit := 14 + transmitter.payloadLimit.toNat
  if limit < UInt64.size then .frameTooLong bytes.length limit else .overflow

section Sending

variable {transmitter : Transmitter} {station : Station} {bytes : List UInt8}
  {frames : List (List UInt8)}

/-- Bytes that are admitted are handed to the link. -/
theorem send_of_admits (admitted : transmitter.Admits bytes) :
    transmitter.send bytes station =
      match station.write bytes with
      | (.error failure, station) => (.error (.ofSocket failure transmitter.interface), station)
      | (.ok sent, station) =>
        if sent = bytes.length then (.ok sent, station)
        else (.error (.truncated sent bytes.length), station) := by
  have limited := Frame.lengthWith?_eq_some_iff.mpr ⟨rfl, admitted.1⟩
  have short := Nat.not_lt.mpr admitted.2
  rcases written : station.write bytes with ⟨failure | sent, after⟩
  · simp only [send, frameLimit?, limited, if_neg short, written]
  · simp only [send, frameLimit?, limited, if_neg short, written]

/-- The send of bytes that are admitted ends with all of them sent, with too few, or with what the
link failed with. -/
theorem result_of_admits (admitted : transmitter.Admits bytes) :
    let result := (transmitter.send bytes station).1
    result = .ok bytes.length ∨ (∃ sent, result = .error (.truncated sent bytes.length)) ∨
      ∃ failure, result = .error (.ofSocket failure transmitter.interface) := by
  intro result
  have sent : result = _ := congrArg Prod.fst (send_of_admits admitted)
  split at sent
  · exact .inr (.inr ⟨_, sent⟩)
  · split at sent
    · rename_i whole
      exact .inl (sent.trans (congrArg _ whole))
    · exact .inr (.inl ⟨_, sent⟩)

/-- Any others come to nothing before the link is touched. -/
theorem send_of_not_admits (barred : ¬ transmitter.Admits bytes) :
    transmitter.send bytes station = (.error (transmitter.refusal bytes), station) := by
  by_cases inRange : 14 + transmitter.payloadLimit.toNat < UInt64.size
  · have limited := Frame.lengthWith?_eq_some_iff.mpr ⟨rfl, inRange⟩
    have long := Nat.lt_of_not_le fun short => barred ⟨inRange, short⟩
    simp only [send, frameLimit?, limited, if_pos long, refusal, if_pos inRange]
  · have unlimited := Frame.lengthWith?_eq_none_iff.mpr (Nat.not_lt.mp inRange)
    simp only [send, frameLimit?, unlimited, refusal, if_neg inRange]

/-- Where the longest frame is no machine word, every send is given up. -/
theorem send_of_overflow (beyond : UInt64.size ≤ 14 + transmitter.payloadLimit.toNat) :
    transmitter.send bytes station = (.error .overflow, station) := by
  have barred : ¬ transmitter.Admits bytes := fun admitted => Nat.not_lt.mpr beyond admitted.1
  rw [send_of_not_admits barred, refusal, if_neg (Nat.not_lt.mpr beyond)]

end Sending

section Surviving

variable {α : Type} {error : Error}

/-- A fatal error ends an activity without a warning. -/
theorem survive_of_fatal (fatal : error.isFatal = true) (warning : Error → Warning)
    (station : Station) :
    survive warning (.error error : Except Error α) station = (some (.error error), station) := by
  rw [survive, if_pos fatal]

/-- Any other error becomes a warning. -/
theorem survive_of_not_fatal (harmless : ¬ error.isFatal = true) (warning : Error → Warning)
    (station : Station) :
    survive warning (.error error : Except Error α) station =
      (none, station.warn (warning error)) := by
  rw [survive, if_neg harmless]

/-- An activity that ends with an error has met that error. -/
theorem eq_error_of_survive {warning : Error → Warning} {result : Except Error α}
    {station : Station} (ended : (survive warning result station).1 = some (.error error)) :
    result = .error error := by
  cases result with
  | ok value => cases ended
  | error cause =>
    by_cases fatal : cause.isFatal = true
    · rw [survive_of_fatal fatal] at ended
      rw [Except.error.inj (Option.some.inj ended)]
    · rw [survive_of_not_fatal fatal] at ended
      cases ended

end Surviving

end Transmitter

end PcmLink
