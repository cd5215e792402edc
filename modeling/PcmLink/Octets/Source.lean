import PcmLink.IoError

/-!
# Byte sources

A source delivers bytes in pieces, as a file or a pipe does, and then either ends or fails. A read
takes the front of the piece at hand, so it never crosses a piece; the readers here read again until
they have what they want. A read that is interrupted is one of those that are made again, so it is
no failure of the source but a piece without bytes. They ask for no byte beyond what they want: a
failure that stands behind the bytes they need is never met.
-/

namespace PcmLink

/-- Bytes still to be delivered, piece by piece. -/
structure Source where
  /-- The pieces, in order; an empty one is a read that was interrupted. -/
  pieces : List (List UInt8)
  /-- What a read meets after the last piece: the end, or a failure. -/
  failure : Option IoError := none
  /-- A failure is none that the readers would pass over and read on. -/
  lasting : failure.all (·.kind != .interrupted) = true := by rfl

namespace Source

/-- Bytes in pieces of at most `size`. -/
def cut (size : Nat) (bytes : List UInt8) : List (List UInt8) :=
  if size = 0 ∨ bytes.length ≤ size then (if bytes = [] then [] else [bytes])
  else bytes.take size :: cut size (bytes.drop size)
termination_by bytes.length
decreasing_by simp only [List.length_drop]; omega

/-- The pieces are the bytes. -/
@[simp] theorem flatten_cut (size : Nat) (bytes : List UInt8) :
    (cut size bytes).flatten = bytes := by
  fun_induction cut size bytes with
  | case1 => simp
  | case2 => simp
  | case3 bytes more ih => rw [List.flatten_cons, ih, List.take_append_drop]

/-- A source that delivers bytes at once and ends. -/
def ofBytes (bytes : List UInt8) : Source := { pieces := if bytes = [] then [] else [bytes] }

/-- All bytes that are still delivered. -/
def bytes (source : Source) : List UInt8 := source.pieces.flatten

/-- Up to `want` bytes of the pieces, and the pieces after them. No bytes are wanted of a piece
that starts after the last byte wanted. -/
def takeUpTo : Nat → List (List UInt8) → List UInt8 × List (List UInt8)
  | _, [] => ([], [])
  | want, piece :: rest =>
    if want < piece.length then (piece.take want, piece.drop want :: rest)
    else
      let (taken, left) := takeUpTo (want - piece.length) rest
      (piece ++ taken, left)

/-- Read until `want` bytes are there or the source ends. A failure is met only if bytes are
missing when the pieces are used up; then the bytes read are lost. -/
def readUpTo (want : Nat) (source : Source) : Except IoError (List UInt8 × Source) :=
  let (taken, left) := takeUpTo want source.pieces
  match source.failure with
  | some failure =>
    if taken.length < want then .error failure else .ok (taken, { source with pieces := left })
  | none => .ok (taken, { source with pieces := left })

/-- Taking bytes splits the bytes of the pieces. -/
theorem takeUpTo_append (want : Nat) (pieces : List (List UInt8)) :
    (takeUpTo want pieces).1 ++ (takeUpTo want pieces).2.flatten = pieces.flatten := by
  induction pieces generalizing want with
  | nil => simp [takeUpTo]
  | cons piece rest ih =>
    simp only [takeUpTo]
    split
    · simp only [List.flatten_cons, ← List.append_assoc, List.take_append_drop]
    · simp only [List.flatten_cons, List.append_assoc, ih]

/-- No more than the wanted bytes are taken. -/
theorem length_takeUpTo_le (want : Nat) (pieces : List (List UInt8)) :
    (takeUpTo want pieces).1.length ≤ want := by
  induction pieces generalizing want with
  | nil => simp [takeUpTo]
  | cons piece rest ih =>
    simp only [takeUpTo]
    split
    · simp only [List.length_take]
      omega
    · have := ih (want - piece.length)
      simp only [List.length_append]
      omega

/-- What is read and what is left are the bytes of the source. -/
theorem bytes_of_readUpTo {want : Nat} {source rest : Source} {taken : List UInt8}
    (read : source.readUpTo want = .ok (taken, rest)) : source.bytes = taken ++ rest.bytes := by
  have whole := takeUpTo_append want source.pieces
  unfold readUpTo at read
  simp only at read
  split at read
  · split at read
    · contradiction
    · obtain ⟨rfl, rfl⟩ := Prod.mk.inj (Except.ok.inj read)
      exact whole.symm
  · obtain ⟨rfl, rfl⟩ := Prod.mk.inj (Except.ok.inj read)
    exact whole.symm

/-- What the next line of a source is. -/
inductive Line where
  /-- The source has ended. -/
  | finished
  /-- The source failed before the line was complete. -/
  | failed (failure : IoError)
  /-- The bytes of a line with its line feed, which only the last line can lack, and the pieces
  after it. -/
  | bytes (line : List UInt8) (rest : List (List UInt8))

/-- The byte that ends a line. -/
def lineFeed : UInt8 := 0x0a

/-- The bytes of the pieces up to and including the first line feed, with the pieces after it;
none if there is no line feed. -/
def takeLine : List (List UInt8) → Option (List UInt8 × List (List UInt8))
  | [] => none
  | piece :: rest =>
    match piece.idxOf? lineFeed with
    | some index => some (piece.take (index + 1), piece.drop (index + 1) :: rest)
    | none => (takeLine rest).map fun (line, left) => (piece ++ line, left)

/-- Read the next line. -/
def nextLine (source : Source) : Line :=
  match takeLine source.pieces with
  | some (line, rest) => .bytes line rest
  | none =>
    match source.failure with
    | some failure => .failed failure
    | none => if source.bytes = [] then .finished else .bytes source.bytes []

end Source

end PcmLink
