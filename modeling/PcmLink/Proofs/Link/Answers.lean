import PcmLink.Link.Outbound

/-!
# What a link answers

What a link answers to a write depends on nothing but the length of the frame and the number of
writes before it. So a frame that is written again and again leaves behind what the answers say: the
outcomes used up, the frame handed over each time, and on the wire, for each write that does not
fail, as many of its first bytes as were answered.
-/

namespace PcmLink

/-- What a link answers to a write of so many bytes that meets an outcome. -/
def WriteOutcome.answer (longest : Option Nat) (length : Nat) : WriteOutcome → Except IoError Nat
  | .accepted => .ok (longest.elim length (min · length))
  | .failed failure => .error failure
  | .reported count => .ok count

namespace Outbound

/-- What a link answers to a write of so many bytes when a number of writes has gone before. -/
def answer (outbound : Outbound) (length index : Nat) : Except IoError Nat :=
  (outbound.outcomes.getD index .accepted).answer outbound.longest length

/-- What reaches the wire of a frame that is written a number of times, write by write. -/
def carried (outbound : Outbound) (bytes : List UInt8) (count : Nat) : List (List UInt8) :=
  (List.range count).filterMap fun index =>
    (outbound.answer bytes.length index).toOption.map fun sent => bytes.take sent

/-- The link behind a number of writes of one frame. -/
def past (outbound : Outbound) (bytes : List UInt8) (count : Nat) : Outbound :=
  { outbound with
    outcomes := outbound.outcomes.drop count
    wire := outbound.wire ++ outbound.carried bytes count
    handed := outbound.handed ++ List.replicate count bytes }

section Past

variable (outbound : Outbound) (bytes : List UInt8)

/-- A frame that the link takes reaches the wire up to the length that the link takes. -/
theorem transmit_eq :
    let sent := outbound.longest.elim bytes.length (min · bytes.length)
    outbound.transmit bytes =
      (sent, { outbound with wire := outbound.wire ++ [bytes.take sent] }) := by
  intro sent
  have taken : outbound.taken bytes = bytes.take sent := by
    unfold taken
    cases limited : outbound.longest with
    | none => simp [sent, limited]
    | some longest => simp [sent, limited, List.take_eq_take_iff]
  have length : sent ≤ bytes.length := by
    cases limited : outbound.longest with
    | none => simp [sent, limited]
    | some longest =>
      simp only [sent, limited, Option.elim_some]
      omega
  simp only [transmit, taken, List.length_take, Nat.min_eq_left length]

/-- One write puts on the wire what its answer says. -/
theorem carried_one :
    outbound.carried bytes 1 =
      (outbound.answer bytes.length 0).toOption.toList.map fun sent => bytes.take sent := by
  have once : List.range 1 = [0] := rfl
  rw [carried, once, List.filterMap_cons, List.filterMap_nil]
  cases outbound.answer bytes.length 0 with
  | error failure => rfl
  | ok sent => rfl

/-- A write is answered, and is the first of those that the link is past then. -/
theorem write_eq :
    outbound.write bytes = (outbound.answer bytes.length 0, outbound.past bytes 1) := by
  rw [past, carried_one, answer]
  cases outcomes : outbound.outcomes with
  | nil =>
    simp only [write, meet, outcomes, transmit_eq]
    rfl
  | cons outcome later =>
    cases outcome with
    | accepted =>
      simp only [write, meet, outcomes, transmit_eq]
      rfl
    | failed failure =>
      simp [write, meet, outcomes, WriteOutcome.answer, Except.toOption]
    | reported count =>
      simp only [write, meet, outcomes]
      rfl

/-- Past no write the link is as it was. -/
theorem past_zero : outbound.past bytes 0 = outbound := by
  simp [past, carried]

/-- The answers behind writes are the later ones. -/
theorem answer_past (length count index : Nat) :
    (outbound.past bytes count).answer length index = outbound.answer length (count + index) := by
  simp only [answer, past, List.getD_eq_getElem?_getD, List.getElem?_drop]

/-- Writes behind writes are all of them. -/
theorem past_past (front back : Nat) :
    (outbound.past bytes front).past bytes back = outbound.past bytes (front + back) := by
  have wire : outbound.carried bytes front ++ (outbound.past bytes front).carried bytes back =
      outbound.carried bytes (front + back) := by
    simp only [carried, answer_past, List.range_add, List.filterMap_append, List.filterMap_map]
    rfl
  have links : (outbound.past bytes front).past bytes back =
      { outbound with
        outcomes := (outbound.outcomes.drop front).drop back
        wire := outbound.wire ++ outbound.carried bytes front ++
          (outbound.past bytes front).carried bytes back
        handed := outbound.handed ++ List.replicate front bytes ++ List.replicate back bytes } :=
    rfl
  rw [links, List.append_assoc, wire, List.append_assoc, List.replicate_append_replicate,
    List.drop_drop]
  rfl

end Past

end Outbound

end PcmLink
