import PcmLink.Octets.Source
import PcmLink.Trace

/-!
# Lines of traces

The characters of a line are digits and spaces, so the only line feed of a line is its end, and a
trace has as many line feeds as there were payloads.
-/

namespace PcmLink

/-- The digits of bytes are digits of halves of bytes. -/
theorem Hex.exists_digit_of_mem_encode {bytes : List UInt8} {c : Char} (found : c ∈ encode bytes) :
    ∃ n < 16, c = Nat.digitChar n := by
  obtain ⟨byte, _, inside⟩ := List.mem_flatMap.mp found
  have bound := byte.toNat_lt
  rcases List.mem_cons.mp inside with high | low
  · exact ⟨byte.toNat / 16, by omega, high⟩
  · exact ⟨byte.toNat % 16, by omega, List.mem_singleton.mp low⟩

namespace Trace

/-- A line is made of digits and spaces. -/
theorem digit_or_space_of_mem_lineText {payload : List UInt8} {c : Char}
    (found : c ∈ lineText payload) : c = ' ' ∨ ∃ n < 16, c = Nat.digitChar n := by
  fun_induction lineText payload with
  | case1 first second rest ih =>
    rcases List.mem_append.mp found with digits | later
    · exact .inr (Hex.exists_digit_of_mem_encode digits)
    · rcases List.mem_cons.mp later with space | later
      · exact .inl space
      · exact ih later
  | case2 last => exact .inr (Hex.exists_digit_of_mem_encode found)
  | case3 => contradiction

end Trace

end PcmLink
