import PcmLink.Octets.Sink

/-!
# What sinks take

When bytes fit a sink, alone and one after the other, and what a sink with a limit keeps of bytes
that do not: the front of everything it was handed, up to the limit.
-/

namespace PcmLink.Sink

/-- So many further bytes fit. -/
def Fits (sink : Sink) (count : Nat) : Prop :=
  ∀ limit, sink.limit = some limit → count ≤ limit - sink.written.length

/-- Everything fits a sink without a limit. -/
theorem fits_of_unlimited {sink : Sink} (unlimited : sink.limit = none) (count : Nat) :
    sink.Fits count := by
  intro limit bounded
  cases unlimited.symm.trans bounded

/-- Bytes are accepted in a whole exactly if they fit. -/
theorem write_eq_ok_iff {sink after : Sink} {bytes : List UInt8} :
    sink.write bytes = (.ok (), after) ↔
      sink.Fits bytes.length ∧ after = { sink with written := sink.written ++ bytes } := by
  cases bounded : sink.limit with
  | none =>
    rw [write_unlimited bounded]
    simp [Fits, bounded, eq_comm]
  | some limit =>
    have fits : sink.Fits bytes.length ↔
        ¬ min bytes.length (limit - sink.written.length) < bytes.length := by
      constructor
      · intro fits
        have := fits limit bounded
        omega
      · intro enough other same
        obtain rfl := Option.some.inj (bounded.symm.trans same)
        omega
    simp only [write, accepts, bounded]
    rw [fits]
    split
    · rename_i full
      simp [full]
    · rename_i enough
      have whole : min bytes.length (limit - sink.written.length) = bytes.length := by omega
      simp [whole, eq_comm]

/-- Bytes fit one after the other exactly if they fit together. -/
theorem fits_append {sink : Sink} {front back : List UInt8} :
    sink.Fits (front ++ back).length ↔
      sink.Fits front.length ∧
        { sink with written := sink.written ++ front }.Fits back.length := by
  simp only [Fits, List.length_append]
  constructor
  · intro fits
    constructor <;> intro limit bounded <;> have := fits limit bounded <;> omega
  · rintro ⟨first, second⟩ limit bounded
    have := first limit bounded
    have := second limit bounded
    omega

/-- A sink with a limit keeps what fits of all bytes that it is handed, and refuses the others. -/
theorem write_of_limit {sink : Sink} {limit : Nat} (bounded : sink.limit = some limit)
    (room : sink.written.length ≤ limit) (bytes : List UInt8) :
    sink.write bytes =
      (if sink.written.length + bytes.length ≤ limit then .ok () else .error sink.refusal,
        { sink with written := (sink.written ++ bytes).take limit }) := by
  have kept : sink.written ++ bytes.take (min bytes.length (limit - sink.written.length)) =
      (sink.written ++ bytes).take limit := by
    rw [List.take_append, List.take_of_length_le room]
    congr 1
    apply List.take_eq_take_iff.mpr
    omega
  simp only [write, accepts, bounded, kept]
  by_cases fits : sink.written.length + bytes.length ≤ limit
  · rw [if_neg (by omega), if_pos fits]
  · rw [if_pos (by omega), if_neg fits]

end PcmLink.Sink
