import Mathlib.Data.List.Forall2
import PcmLink.Proofs.Trace
import PcmLink.Reassembly

/-!
# Payloads recovered from traces

A trace without a limit takes every payload, so payloads are joined one after the other and traced
row by row. The trace is a faithful record of them: its rows are found between line feeds, a row
without its spaces is the digits of a payload, and the digits are read back. So the trace of some
payloads is the trace of no others.
-/

namespace PcmLink

namespace Reassembly

/-- Payloads joined and traced behind those before them. -/
def extended (joined : Reassembly) (payloads : List (List UInt8)) : Reassembly where
  stream := joined.stream ++ payloads.flatten
  segments := joined.segments + payloads.length
  trace := { joined.trace with written := joined.trace.written ++ Trace.lines payloads }

/-- A payload that is pushed is the first of those joined. -/
theorem extended_cons (joined : Reassembly) (payload : List UInt8)
    (payloads : List (List UInt8)) :
    joined.extended (payload :: payloads) =
      (joined.extended [payload]).extended payloads := by
  simp [extended, Trace.lines, Nat.add_comm, Nat.add_left_comm]

/-- A trace without a limit takes every payload. -/
theorem push_eq_extended {joined : Reassembly} (unlimited : joined.trace.limit = none)
    (payload : List UInt8) : joined.push payload = (.ok (), joined.extended [payload]) := by
  rw [push_unlimited unlimited]
  simp [extended, Trace.lines]

/-- A trace without a limit takes all payloads. -/
theorem pushAll_eq_extended {joined : Reassembly} (unlimited : joined.trace.limit = none)
    (payloads : List (List UInt8)) :
    joined.pushAll payloads = (.ok (), joined.extended payloads) := by
  induction payloads generalizing joined with
  | nil => simp [pushAll, extended, Trace.lines]
  | cons payload payloads ih =>
    have rest : (joined.extended [payload]).pushAll payloads =
        (.ok (), (joined.extended [payload]).extended payloads) := ih unlimited
    rw [pushAll, push_eq_extended unlimited]
    dsimp only
    rw [rest, ← extended_cons]

end Reassembly

namespace Trace

/-- The byte between groups of digits. -/
def space : UInt8 := 0x20

/-- The digits from `0` to `9` and from `a` to `f`. -/
def lowercaseDigits : List UInt8 :=
  [0x30, 0x31, 0x32, 0x33, 0x34, 0x35, 0x36, 0x37, 0x38, 0x39, 0x61, 0x62, 0x63, 0x64, 0x65, 0x66]

/-- The byte of a character of a trace. -/
def charByte (c : Char) : UInt8 := UInt8.ofNat c.toNat

/-- The rows of a trace: what stands before each of its line feeds. -/
def rows (trace : List UInt8) : List (List UInt8) := (trace.splitOn Source.lineFeed).dropLast

/-- The payload that a row shows: the bytes whose digits it has, spaces aside. -/
def payload? (row : List UInt8) : Option (List UInt8) :=
  Hex.decode ((row.filter (· != space)).map fun byte => Char.ofNat byte.toNat)

/-- A row is the record of a payload. -/
structure Records (row payload : List UInt8) : Prop where
  /-- It is a single row. -/
  unbroken : Source.lineFeed ∉ row
  /-- It is made of digits and spaces. -/
  lowercase : ∀ byte ∈ row, byte = space ∨ byte ∈ lowercaseDigits
  /-- The payload is read from it. -/
  shows : payload? row = some payload
  /-- With its line feed, it has five characters for a pair of bytes and two for a byte alone. -/
  width : row.length + 1 = 5 * (payload.length / 2) + 2 * (payload.length % 2) + 1

section Rows

/-- The row of a payload. -/
def row (payload : List UInt8) : List UInt8 := (lineText payload).map charByte

/-- A line is a row and its end. -/
theorem line_eq (payload : List UInt8) : line payload = row payload ++ [Source.lineFeed] := by
  rw [line, List.map_append]
  rfl

/-- The byte of a digit is a lowercase digit, and the digit is found again. -/
theorem charByte_digitChar : ∀ n < 16,
    charByte (Nat.digitChar n) ∈ lowercaseDigits ∧
      Char.ofNat (charByte (Nat.digitChar n)).toNat = Nat.digitChar n := by decide

/-- The space is no digit. -/
theorem space_not_mem_lowercaseDigits : space ∉ lowercaseDigits := by decide

/-- The line feed is no digit. -/
theorem lineFeed_not_mem_lowercaseDigits : Source.lineFeed ∉ lowercaseDigits := by decide

/-- A row is made of digits and spaces. -/
theorem mem_row {payload : List UInt8} {byte : UInt8} (found : byte ∈ row payload) :
    byte = space ∨ byte ∈ lowercaseDigits := by
  obtain ⟨c, inside, rfl⟩ := List.mem_map.mp found
  rcases digit_or_space_of_mem_lineText inside with rfl | ⟨n, small, rfl⟩
  · exact .inl rfl
  · exact .inr (charByte_digitChar n small).1

/-- A row has no line feed. -/
theorem lineFeed_not_mem_row (payload : List UInt8) : Source.lineFeed ∉ row payload := by
  intro found
  rcases mem_row found with same | digit
  · exact absurd same (by decide)
  · exact lineFeed_not_mem_lowercaseDigits digit

/-- Digits are no spaces. -/
theorem filter_encode (bytes : List UInt8) :
    ((Hex.encode bytes).map charByte).filter (· != space) = (Hex.encode bytes).map charByte := by
  apply List.filter_eq_self.mpr
  intro byte found
  obtain ⟨c, inside, rfl⟩ := List.mem_map.mp found
  obtain ⟨n, small, rfl⟩ := Hex.exists_digit_of_mem_encode inside
  have digit := (charByte_digitChar n small).1
  exact bne_iff_ne.mpr fun same => space_not_mem_lowercaseDigits (same ▸ digit)

/-- A row without its spaces is the digits of the payload. -/
theorem filter_row (payload : List UInt8) :
    (row payload).filter (· != space) = (Hex.encode payload).map charByte := by
  rw [row]
  fun_induction lineText payload with
  | case1 first second rest ih =>
    have digits : Hex.encode (first :: second :: rest) =
        Hex.encode [first, second] ++ Hex.encode rest := by simp [Hex.encode]
    have gap (tail : List UInt8) :
        (charByte ' ' :: tail).filter (· != space) = tail.filter (· != space) := rfl
    rw [digits, List.map_append, List.map_append, List.map_cons, List.filter_append,
      filter_encode, gap, ih]
  | case2 last => exact filter_encode [last]
  | case3 => rfl

/-- The characters of digits are found again from their bytes. -/
theorem map_charByte_encode (bytes : List UInt8) :
    ((Hex.encode bytes).map charByte).map (fun byte => Char.ofNat byte.toNat) =
      Hex.encode bytes := by
  have found (c : Char) (inside : c ∈ Hex.encode bytes) :
      Char.ofNat (charByte c).toNat = c := by
    obtain ⟨n, small, rfl⟩ := Hex.exists_digit_of_mem_encode inside
    exact (charByte_digitChar n small).2
  rw [List.map_map]
  exact (List.map_congr_left found).trans (List.map_id' _)

/-- A payload is read from its row. -/
theorem payload?_row (payload : List UInt8) : payload? (row payload) = some payload := by
  rw [payload?, filter_row, map_charByte_encode, Hex.decode_encode]

/-- A pair of bytes takes four digits and a space of a row, and a byte alone two digits. -/
theorem length_row (payload : List UInt8) :
    (row payload).length = 5 * (payload.length / 2) + 2 * (payload.length % 2) := by
  rw [row, List.length_map]
  fun_induction lineText payload with
  | case1 first second rest ih =>
    simp only [List.length_append, Hex.length_encode, List.length_cons, List.length_nil, ih]
    omega
  | case2 last => simp only [Hex.length_encode, List.length_singleton]
  | case3 => rfl

/-- The row of a payload is the record of it. -/
theorem records_row (payload : List UInt8) : Records (row payload) payload where
  unbroken := lineFeed_not_mem_row payload
  lowercase _ found := mem_row found
  shows := payload?_row payload
  width := by rw [length_row]

/-- The rows of a trace are those of its payloads. -/
theorem rows_lines (payloads : List (List UInt8)) : rows (lines payloads) = payloads.map row := by
  have parts : (lines payloads).splitOn Source.lineFeed = payloads.map row ++ [[]] := by
    induction payloads with
    | nil => rfl
    | cons payload payloads ih =>
      rw [lines, List.flatMap_cons, ← lines, line_eq, List.append_assoc, List.singleton_append,
        List.splitOn_append_cons_self_of_not_mem (lineFeed_not_mem_row payload), ih]
      rfl
  rw [rows, parts, List.dropLast_concat]

/-- A trace is its rows, each with a line feed. -/
theorem lines_eq_flatMap_rows (payloads : List (List UInt8)) :
    lines payloads = (rows (lines payloads)).flatMap (· ++ [Source.lineFeed]) := by
  have ended : (· ++ [Source.lineFeed]) ∘ row = line := by
    funext payload
    exact (line_eq payload).symm
  rw [rows_lines, List.flatMap_map]
  exact congrArg (List.flatMap · payloads) ended.symm

/-- The rows of a trace are the records of its payloads, in order. -/
theorem records_rows (payloads : List (List UInt8)) :
    List.Forall₂ Records (rows (lines payloads)) payloads := by
  rw [rows_lines, List.forall₂_map_left_iff]
  exact List.forall₂_same.mpr fun payload _ => records_row payload

/-- Payloads are read from the rows that show them. -/
theorem filterMap_payload?_rows (payloads : List (List UInt8)) :
    (rows (lines payloads)).filterMap payload? = payloads := by
  rw [rows_lines, List.filterMap_map]
  have shown : payload? ∘ row = some := funext payload?_row
  rw [shown, List.filterMap_some]

/-- Traces of different payloads differ. -/
theorem lines_inj {payloads others : List (List UInt8)} :
    lines others = lines payloads ↔ others = payloads := by
  constructor
  · intro same
    rw [← filterMap_payload?_rows others, same, filterMap_payload?_rows]
  · exact congrArg lines

end Rows

end Trace

/-- A trace without a limit is a faithful record of the payloads that are joined: whatever the
payloads are, the stream is all of them one after the other, the trace is a row with a line feed for
each of them in order, each row is the record of its payload, the payloads read from the rows make
up the stream, and no other payloads have the same trace. -/
theorem Reassembly.payloads_recovered_from_trace (payloads : List (List UInt8)) :
    let (result, joined) := ({} : Reassembly).pushAll payloads
    let trace := joined.trace.written
    result = .ok () ∧ joined.stream = payloads.flatten ∧ joined.segments = payloads.length ∧
    trace = (Trace.rows trace).flatMap (· ++ [Source.lineFeed]) ∧
    List.Forall₂ Trace.Records (Trace.rows trace) payloads ∧
    (Trace.rows trace).filterMap Trace.payload? = payloads ∧
    ((Trace.rows trace).filterMap Trace.payload?).flatten = joined.stream ∧
    ∀ others, (({} : Reassembly).pushAll others).2.trace.written = trace ↔ others = payloads := by
  have taken (given : List (List UInt8)) :
      ({} : Reassembly).pushAll given =
        (.ok (), { stream := given.flatten, segments := given.length
                   trace := { written := Trace.lines given } }) := by
    rw [pushAll_eq_extended rfl]
    simp only [extended, List.nil_append, Nat.zero_add]
  simp only [taken, Trace.filterMap_payload?_rows, Trace.lines_inj, implies_true, and_true,
    true_and]
  exact ⟨Trace.lines_eq_flatMap_rows payloads, Trace.records_rows payloads⟩

example :
    (Trace.rows ("abcd ef\n\n01\n".toList.map Trace.charByte)).map Trace.payload? =
      [some [0xab, 0xcd, 0xef], some [], some [0x01]] := by decide

end PcmLink
