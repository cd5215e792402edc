import Mathlib.Data.Nat.Find
import Mathlib.Order.Basic
import PcmLink.Proofs.Octets.Sink
import PcmLink.Proofs.Reassembly.Recovery

/-!
# Payloads behind a full trace

A payload is traced before it is joined, so a trace with a limit can cut the line of a payload that
then is not joined. What is joined stays in step with what was traced in a whole: the payloads whose
lines fit the trace together are joined, and no later payload is, not even one whose line is shorter
than what was cut, as a cut line fills the trace and no line is without bytes.
-/

namespace PcmLink

namespace Trace

/-- The lines of payloads come one after the other. -/
theorem lines_append (payloads others : List (List UInt8)) :
    lines (payloads ++ others) = lines payloads ++ lines others :=
  List.flatMap_append

/-- The trace of a payload alone is its line. -/
theorem lines_singleton (payload : List UInt8) : lines [payload] = line payload :=
  List.flatMap_singleton line payload

/-- Every line has a byte, its end. -/
theorem length_line_pos (payload : List UInt8) : 0 < (line payload).length := by
  rw [line_eq, List.length_append]
  exact Nat.succ_pos _

/-- The lines of fewer payloads are no longer. -/
theorem length_lines_take_le (payloads : List (List UInt8)) {fewer count : Nat}
    (ordered : fewer ≤ count) :
    (lines (payloads.take fewer)).length ≤ (lines (payloads.take count)).length := by
  obtain ⟨others, parts⟩ : payloads.take fewer <+: payloads.take count :=
    List.take_prefix_take_left ordered
  rw [← parts, lines_append, List.length_append]
  exact Nat.le_add_right _ _

/-- How many payloads there are, from the first on, whose lines fit a trace together. -/
def fitting (limit : Nat) (payloads : List (List UInt8)) : Nat :=
  Nat.findGreatest (fun count => (lines (payloads.take count)).length ≤ limit) payloads.length

section Fitting

variable {limit : Nat} {payloads : List (List UInt8)}

/-- No more payloads fit than there are. -/
theorem fitting_le_length (limit : Nat) (payloads : List (List UInt8)) :
    fitting limit payloads ≤ payloads.length :=
  Nat.findGreatest_le _

/-- The lines of the first payloads fit together exactly up to the greatest number of them. -/
theorem le_fitting_iff {count : Nat} :
    count ≤ fitting limit payloads ↔
      count ≤ payloads.length ∧ (lines (payloads.take count)).length ≤ limit := by
  constructor
  · intro within
    have most : (lines (payloads.take (fitting limit payloads))).length ≤ limit :=
      Nat.findGreatest_spec (P := fun count => (lines (payloads.take count)).length ≤ limit)
        (Nat.zero_le _) (Nat.zero_le _)
    exact ⟨Nat.le_trans within (fitting_le_length limit payloads),
      Nat.le_trans (length_lines_take_le payloads within) most⟩
  · rintro ⟨present, fits⟩
    exact Nat.le_findGreatest present fits

/-- Of the first payloads those fit that are among all that fit. -/
theorem fitting_take (limit : Nat) (payloads : List (List UInt8)) (count : Nat) :
    fitting limit (payloads.take count) = min count (fitting limit payloads) := by
  apply eq_of_forall_le_iff
  intro fewer
  rw [le_fitting_iff, Nat.le_min, le_fitting_iff, List.length_take, List.take_take]
  constructor
  · rintro ⟨within, fits⟩
    have ordered : fewer ≤ count := by omega
    rw [Nat.min_eq_left ordered] at fits
    exact ⟨ordered, by omega, fits⟩
  · rintro ⟨ordered, present, fits⟩
    rw [Nat.min_eq_left ordered]
    exact ⟨by omega, fits⟩

/-- One payload more fits with those before it exactly if all lines fit together. -/
theorem length_lt_fitting_concat_iff {payload : List UInt8} :
    payloads.length < fitting limit (payloads ++ [payload]) ↔
      (lines (payloads ++ [payload])).length ≤ limit := by
  have all : (payloads ++ [payload]).take (payloads.length + 1) = payloads ++ [payload] :=
    List.take_of_length_le (Nat.le_of_eq List.length_append)
  rw [← Nat.succ_le_iff, le_fitting_iff, Nat.succ_eq_add_one, all, List.length_append]
  exact and_iff_right (Nat.le_refl _)

/-- Of payloads those fit that fit when one more comes behind them. -/
theorem fitting_eq_min_concat (limit : Nat) (payloads : List (List UInt8)) (payload : List UInt8) :
    fitting limit payloads = min payloads.length (fitting limit (payloads ++ [payload])) := by
  rw [← fitting_take, List.take_left]

/-- If the lines of payloads and of one more fit together, all of them are among those that fit. -/
theorem fitting_of_fits {payload : List UInt8}
    (fits : (lines (payloads ++ [payload])).length ≤ limit) :
    fitting limit payloads = payloads.length ∧
      fitting limit (payloads ++ [payload]) = payloads.length + 1 := by
  have before := fitting_eq_min_concat limit payloads payload
  have more := length_lt_fitting_concat_iff.mpr fits
  have bound := fitting_le_length limit (payloads ++ [payload])
  rw [List.length_append, List.length_singleton] at bound
  omega

/-- If the lines of payloads and of one more do not fit together, those fit that did before. -/
theorem fitting_of_not_fits {payload : List UInt8}
    (full : ¬ (lines (payloads ++ [payload])).length ≤ limit) :
    fitting limit (payloads ++ [payload]) = fitting limit payloads := by
  have before := fitting_eq_min_concat limit payloads payload
  have fewer := mt length_lt_fitting_concat_iff.mp full
  omega

end Fitting

end Trace

namespace Reassembly

/-- Payloads joined as far as their lines fit a trace with a limit, with the front of all lines. -/
def upTo (limit : Nat) (payloads : List (List UInt8)) : Reassembly where
  stream := (payloads.take (Trace.fitting limit payloads)).flatten
  segments := Trace.fitting limit payloads
  trace := { limit := some limit, written := (Trace.lines payloads).take limit }

/-- Push payloads one after the other, whatever becomes of each. -/
def pushEach (joined : Reassembly) (payloads : List (List UInt8)) : Reassembly :=
  payloads.foldl (fun joined payload => (joined.push payload).2) joined

section Next

variable {limit : Nat} {payloads : List (List UInt8)} {payload : List UInt8}

/-- The next line is written if all lines fit together, and the trace keeps the front of them. -/
theorem write_upTo (limit : Nat) (payloads : List (List UInt8)) (payload : List UInt8) :
    (upTo limit payloads).trace.write (Trace.line payload) =
      (if (Trace.lines (payloads ++ [payload])).length ≤ limit then .ok ()
        else .error (upTo limit payloads).trace.refusal,
        (upTo limit (payloads ++ [payload])).trace) := by
  have all : Trace.lines (payloads ++ [payload]) = Trace.lines payloads ++ Trace.line payload := by
    rw [Trace.lines_append, Trace.lines_singleton]
  have kept : ((Trace.lines payloads).take limit ++ Trace.line payload).take limit =
      (Trace.lines (payloads ++ [payload])).take limit := by
    have gap : limit - min limit (Trace.lines payloads).length =
        limit - (Trace.lines payloads).length := by omega
    rw [all, List.take_append, List.take_append, List.take_take, Nat.min_self, List.length_take,
      gap]
  have room : (upTo limit payloads).trace.written.length ≤ limit := List.length_take_le _ _
  -- A full trace has no room for the next line, as the line has its end at least.
  have fits : (upTo limit payloads).trace.written.length + (Trace.line payload).length ≤ limit ↔
      (Trace.lines (payloads ++ [payload])).length ≤ limit := by
    have ended := Trace.length_line_pos payload
    rw [all, List.length_append]
    simp only [upTo, List.length_take]
    omega
  rw [Sink.write_of_limit rfl room]
  simp only [fits]
  simp only [upTo, kept]

/-- A payload whose line fits with those before it is joined. -/
theorem upTo_concat_of_fits (fits : (Trace.lines (payloads ++ [payload])).length ≤ limit) :
    upTo limit (payloads ++ [payload]) =
      { stream := (upTo limit payloads).stream ++ payload
        segments := (upTo limit payloads).segments + 1
        trace := (upTo limit (payloads ++ [payload])).trace } := by
  obtain ⟨before, after⟩ := Trace.fitting_of_fits fits
  have whole : (payloads ++ [payload]).take (payloads.length + 1) = payloads ++ [payload] :=
    List.take_of_length_le (Nat.le_of_eq List.length_append)
  simp only [upTo, before, after, whole, List.take_length, List.flatten_concat]

/-- A payload whose line does not fit with those before it changes nothing but the trace. -/
theorem upTo_concat_of_not_fits
    (full : ¬ (Trace.lines (payloads ++ [payload])).length ≤ limit) :
    upTo limit (payloads ++ [payload]) =
      { upTo limit payloads with trace := (upTo limit (payloads ++ [payload])).trace } := by
  have within := Trace.fitting_le_length limit payloads
  simp only [upTo, Trace.fitting_of_not_fits full, List.take_append_of_le_length within]

/-- A push is the next of the payloads, and it succeeds exactly if all lines fit together. -/
theorem push_upTo (limit : Nat) (payloads : List (List UInt8)) (payload : List UInt8) :
    (upTo limit payloads).push payload =
      (if (Trace.lines (payloads ++ [payload])).length ≤ limit then .ok ()
        else .error (upTo limit payloads).trace.refusal,
        upTo limit (payloads ++ [payload])) := by
  rw [push, write_upTo]
  by_cases fits : (Trace.lines (payloads ++ [payload])).length ≤ limit
  · simp only [if_pos fits]
    rw [← upTo_concat_of_fits fits]
  · simp only [if_neg fits]
    rw [← upTo_concat_of_not_fits fits]

end Next

/-- Without payloads there is an empty trace with a limit. -/
theorem upTo_nil (limit : Nat) : upTo limit [] = { trace := { limit := some limit } } := by
  have empty : Trace.lines [] = [] := rfl
  simp only [upTo, empty, List.take_nil, List.flatten_nil]
  rfl

/-- Payloads pushed one after the other are joined as far as their lines fit. -/
theorem pushEach_upTo (limit : Nat) (done payloads : List (List UInt8)) :
    (upTo limit done).pushEach payloads = upTo limit (done ++ payloads) := by
  induction payloads generalizing done with
  | nil => rw [List.append_nil]; rfl
  | cons payload payloads ih =>
    have step : ((upTo limit done).push payload).2 = upTo limit (done ++ [payload]) := by
      rw [push_upTo]
    rw [pushEach, List.foldl_cons, step, ← pushEach, ih, List.append_assoc, List.singleton_append]

/-- Whatever the payloads and the limit of a trace are, those payloads are joined whose lines fit
the trace together, and no others: each push up to them succeeds, and each later push fails for want
of room and leaves the stream and the count of payloads as they were. After any number of pushes the
stream is made of the payloads that were joined so far and the trace is the front of all lines. -/
theorem refused_pushes_change_nothing (limit : Nat) (payloads : List (List UInt8)) (count : Nat) :
    let joined := ({ trace := { limit := some limit } } : Reassembly).pushEach (payloads.take count)
    let traced := Trace.lines (payloads.take count)
    let whole := Trace.fitting limit payloads
    joined.stream = (payloads.take (min count whole)).flatten ∧
    joined.segments = min count whole ∧
    joined.trace.written = traced.take (min limit traced.length) ∧
    ∀ payload ∈ payloads[count]?,
      if count < whole then (joined.push payload).1 = .ok ()
      else ∃ failure trace, failure.kind = .writeZero ∧
        joined.push payload = (.error failure, { joined with trace }) := by
  intro joined traced whole
  have reached : joined = upTo limit (payloads.take count) := by
    show pushEach _ _ = _
    rw [← upTo_nil, pushEach_upTo, List.nil_append]
  have among : Trace.fitting limit (payloads.take count) = min count whole :=
    Trace.fitting_take limit payloads count
  have part : (payloads.take count).take (min count whole) = payloads.take (min count whole) := by
    rw [List.take_take, Nat.min_right_comm, Nat.min_self]
  rw [reached]
  refine ⟨?_, among, List.take_eq_take_min, fun payload present => ?_⟩
  · rw [← part, ← among]
    rfl
  · have next : payloads.take (count + 1) = payloads.take count ++ [payload] := by
      rw [List.take_add_one, Option.mem_def.mp present]
      rfl
    have there : count + 1 ≤ payloads.length := (List.getElem?_eq_some_iff.mp present).1
    have fits : count < whole ↔
        (Trace.lines (payloads.take count ++ [payload])).length ≤ limit := by
      rw [← next, ← Nat.succ_le_iff, Trace.le_fitting_iff]
      exact and_iff_right there
    by_cases within : count < whole
    · rw [if_pos within, push_upTo, if_pos (fits.mp within)]
    · rw [if_neg within]
      have full := mt fits.mpr within
      rw [push_upTo, if_neg full]
      exact ⟨_, _, rfl, congrArg (Prod.mk _) (upTo_concat_of_not_fits full)⟩

/-- With room for nine bytes the line of three bytes fits, and of the next line its first byte. The
trace is full then, so even a payload without bytes is refused, and the stream stays. -/
theorem refused_pushes_change_nothing_behind_cut :
    let payloads : List (List UInt8) := [[0x01, 0x02, 0x03], [0x04], [], [0x05]]
    let joined := ({ trace := { limit := some 9 } } : Reassembly).pushEach (payloads.take 2)
    Trace.fitting 9 payloads = 1 ∧ joined.stream = [0x01, 0x02, 0x03] ∧ joined.segments = 1 ∧
      joined.trace.written = "0102 03\n0".toList.map Trace.charByte ∧
      ∃ failure trace, failure.kind = .writeZero ∧
        joined.push [] = (.error failure, { joined with trace }) := by
  intro payloads joined
  have first : Trace.fitting 9 payloads = 1 := by decide
  obtain ⟨stream, segments, written, pushed⟩ := refused_pushes_change_nothing 9 payloads 2
  have refused := pushed [] rfl
  rw [first] at stream segments refused
  exact ⟨first, stream, segments, written, refused⟩

end Reassembly

end PcmLink
