import PcmLink.Transmitter

/-!
# The lines of a source

Which lines a source is read as depends on its bytes and on how it ends, not on the pieces that it
delivers the bytes in. A line ends with a line feed and is taken without it and without a carriage
return before it; what stands behind the last line feed is a line too, unless the source fails. A
line whose bytes are not text cannot be read.
-/

namespace PcmLink

namespace Source

/-- Pieces without a line feed have no line to take. -/
theorem not_mem_of_takeLine {pieces : List (List UInt8)} (missing : takeLine pieces = none) :
    lineFeed ∉ pieces.flatten := by
  induction pieces with
  | nil => exact List.not_mem_nil
  | cons piece pieces ih =>
    simp only [takeLine] at missing
    cases place : piece.idxOf? lineFeed with
    | some index =>
      rw [place] at missing
      cases missing
    | none =>
      rw [place] at missing
      have later := ih (Option.map_eq_none_iff.mp missing)
      rw [List.flatten_cons, List.mem_append, not_or]
      exact ⟨List.idxOf?_eq_none_iff.mp place, later⟩

/-- Bytes are cut at the index of their first line feed. -/
theorem cut_of_idxOf? {bytes : List UInt8} {index : Nat}
    (place : bytes.idxOf? lineFeed = some index) :
    bytes.take (index + 1) = bytes.take index ++ [lineFeed] ∧ lineFeed ∉ bytes.take index := by
  obtain ⟨inside, here, before⟩ := List.idxOf?_eq_some_iff.mp place
  constructor
  · rw [List.take_succ_eq_append_getElem inside, here]
  · intro found
    obtain ⟨earlier, bound, same⟩ := List.mem_take_iff_getElem.mp found
    exact before earlier (by omega) same

/-- A line that is taken ends with the first line feed of the pieces. -/
theorem exists_front_of_takeLine {pieces rest : List (List UInt8)} {line : List UInt8}
    (taken : takeLine pieces = some (line, rest)) :
    ∃ front, line = front ++ [lineFeed] ∧ lineFeed ∉ front ∧
      pieces.flatten = front ++ lineFeed :: rest.flatten := by
  have whole := (length_takeLine taken).1
  -- The bytes are those of the line and the rest, so only the line is left to be looked at.
  suffices ends : ∃ front, line = front ++ [lineFeed] ∧ lineFeed ∉ front by
    obtain ⟨front, rfl, absent⟩ := ends
    refine ⟨front, rfl, absent, ?_⟩
    rw [← whole, List.append_assoc, List.singleton_append]
  clear whole
  induction pieces generalizing line rest with
  | nil => cases taken
  | cons piece pieces ih =>
    simp only [takeLine] at taken
    cases place : piece.idxOf? lineFeed with
    | some index =>
      rw [place] at taken
      obtain ⟨rfl, rfl⟩ := Prod.mk.inj (Option.some.inj taken)
      exact ⟨piece.take index, cut_of_idxOf? place⟩
    | none =>
      rw [place] at taken
      obtain ⟨⟨tail, left⟩, later, same⟩ := Option.map_eq_some_iff.mp taken
      obtain ⟨rfl, rfl⟩ := Prod.mk.inj same
      obtain ⟨front, rfl, absent⟩ := ih later
      refine ⟨piece ++ front, (List.append_assoc ..).symm, ?_⟩
      rw [List.mem_append, not_or]
      exact ⟨List.idxOf?_eq_none_iff.mp place, absent⟩

/-- The byte that is dropped in front of a line feed. -/
def carriageReturn : UInt8 := 0x0d

/-- Bytes without a carriage return at their end. -/
def withoutReturn (bytes : List UInt8) : List UInt8 :=
  if bytes.getLast? = some carriageReturn then bytes.dropLast else bytes

/-- What the bytes of a line are read as. -/
def readText (bytes : List UInt8) : Except IoError String :=
  match Text.Utf8.decodeText bytes with
  | none => .error .notText
  | some text => .ok text

/-- What the parts between line feeds are read as. A part that a line feed follows is a line. What
stands behind the last line feed is one if there is any of it, but is lost if the source fails. -/
def readParts (failure : Option IoError) : List (List UInt8) → List (Except IoError String)
  | [] => []
  | [last] =>
    match failure with
    | some failure => [.error failure]
    | none => if last = [] then [] else [readText last]
  | part :: rest => readText (withoutReturn part) :: readParts failure rest

/-- The lines of a source in order: what reading each of them comes to. -/
def script (source : Source) : List (Except IoError String) :=
  readParts source.failure (source.bytes.splitOn lineFeed)

end Source

namespace Transmitter

open Source

/-- A line with its line feed is read without a carriage return. -/
theorem lineText?_concat (front : List UInt8) :
    lineText? (front ++ [lineFeed]) = Text.Utf8.decodeText (withoutReturn front) := by
  obtain ⟨back, rfl⟩ : ∃ back, front = back.reverse := ⟨front.reverse, front.reverse_reverse.symm⟩
  have reversed : (back.reverse ++ [lineFeed]).reverse = lineFeed :: back := by simp
  rw [lineText?, reversed, withoutReturn, List.getLast?_reverse, List.dropLast_reverse]
  cases back with
  | nil => rfl
  | cons last inner =>
    by_cases returned : last = carriageReturn
    · rw [returned]
      rfl
    · have kept : (last :: inner).head? ≠ some carriageReturn := by simp [returned]
      rw [if_neg kept]
      dsimp only
      split
      · rename_i same
        exact absurd (List.cons.inj (List.cons.inj same).2).1 returned
      · rename_i same
        rw [(List.cons.inj same).2]
      · rename_i other
        exact absurd rfl (other _)

/-- A line without a line feed is read as it is. -/
theorem lineText?_of_not_mem {line : List UInt8} (absent : lineFeed ∉ line) :
    lineText? line = Text.Utf8.decodeText line := by
  obtain ⟨back, rfl⟩ : ∃ back, line = back.reverse := ⟨line.reverse, line.reverse_reverse.symm⟩
  rw [lineText?, List.reverse_reverse]
  cases back with
  | nil => rfl
  | cons last inner =>
    have other : last ≠ lineFeed := by
      rintro rfl
      exact absent (by simp)
    dsimp only
    split
    · rename_i same
      exact absurd (List.cons.inj same).1 other
    · rename_i same
      exact absurd (List.cons.inj same).1 other
    · rfl

end Transmitter

namespace Source

/-- The lines of a source are the next one and the lines behind it. -/
theorem script_eq (source : Source) :
    source.script =
      match source.nextLine with
      | .finished => []
      | .failed failure => [.error failure]
      | .bytes line rest =>
        (match Transmitter.lineText? line with
          | none => .error .notText
          | some text => .ok text) :: ({ source with pieces := rest } : Source).script := by
  unfold nextLine
  cases taken : takeLine source.pieces with
  | some line =>
    obtain ⟨line, rest⟩ := line
    obtain ⟨front, rfl, absent, whole⟩ := exists_front_of_takeLine taken
    have parts : source.bytes.splitOn lineFeed = front :: rest.flatten.splitOn lineFeed := by
      rw [bytes, whole, List.splitOn_append_cons_self_of_not_mem absent]
    rw [script, parts]
    dsimp only
    rw [Transmitter.lineText?_concat]
    cases split : rest.flatten.splitOn lineFeed with
    | nil => exact absurd split (List.splitOn_ne_nil _ _)
    | cons part later =>
      rw [script, bytes, split]
      rfl
  | none =>
    have absent : lineFeed ∉ source.bytes := not_mem_of_takeLine taken
    have parts : source.bytes.splitOn lineFeed = [source.bytes] := List.splitOn_eq_singleton absent
    rw [script, parts]
    rcases Option.eq_none_or_eq_some source.failure with ends | ⟨failure, ends⟩
    · have last : readParts none [source.bytes] =
          if source.bytes = [] then [] else [readText source.bytes] := rfl
      have nothing : ({ pieces := [], failure := none } : Source).script = [] := rfl
      by_cases empty : source.bytes = []
      · simp only [ends, last, if_pos empty]
      · simp only [ends, last, if_neg empty, nothing, Transmitter.lineText?_of_not_mem absent]
        rfl
    · simp only [ends, readParts]

example :
    ({ pieces := [[0x30, 0x0d], [0x0a, 0xff, 0x0a], [0x31, 0x0d]] } : Source).script =
      [.ok "0", .error .notText, .ok "1\r"] := by rfl

end Source

namespace Transmitter

/-- Listen to lines. -/
def listenTo (transmitter : Transmitter) :
    List (Except IoError String) → Station → Except Error Unit × Station
  | [], station => (.ok (), station)
  | .error failure :: _, station => (.error (.io failure), station)
  | .ok line :: rest, station =>
    if station.stopped then (.ok (), station)
    else
      match transmitter.obey line station with
      | (some result, station) => (result, station)
      | (none, station) => transmitter.listenTo rest station

/-- Listening to a source is listening to its lines. -/
theorem listen_eq (transmitter : Transmitter) (source : Source) (station : Station) :
    transmitter.listen source station = transmitter.listenTo source.script station := by
  fun_induction transmitter.listen source station with
  | case1 source station finished => rw [source.script_eq, finished]; rfl
  | case2 source station failure failed => rw [source.script_eq, failed]; rfl
  | case3 source station line rest read garbled =>
    rw [source.script_eq]
    simp only [read, garbled]
    rfl
  | case4 source station line rest read text readable stopped =>
    rw [source.script_eq]
    simp only [read, readable, listenTo, if_pos stopped]
  | case5 source station line rest read text readable unstopped result after obeyed =>
    rw [source.script_eq]
    simp only [read, readable, listenTo, if_neg unstopped, obeyed]
  | case6 source station line rest read text readable unstopped after obeyed ih =>
    rw [source.script_eq]
    simp only [read, readable, listenTo, if_neg unstopped, obeyed]
    exact ih

end Transmitter

end PcmLink
