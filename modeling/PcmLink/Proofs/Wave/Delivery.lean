import PcmLink.Proofs.Wave.Truncation

/-!
# WAVE data in pieces

What WAVE data is read as depends on its bytes alone, not on the pieces that a source delivers them
in, and the reader asks for a byte only if it needs one. For any bytes there are two cases. Either
they settle the reading: every source that begins with them is read alike, whatever it delivers and
however it ends behind them. Or they are too few: the reader meets the end of the source or its
failure, and there are bytes with which it would not have stopped there. Both are found chunk by
chunk, as the head of a chunk says what is asked for and its bytes say how reading goes on.
-/

namespace PcmLink

/-- The number of bytes that are not all zero is not zero. -/
theorem Octets.decodeNat_pos {bytes : List UInt8} {byte : UInt8} (found : byte ∈ bytes)
    (counts : byte ≠ 0) : 0 < decodeNat bytes := by
  induction bytes with
  | nil => contradiction
  | cons first rest ih =>
    rw [decodeNat]
    rcases List.mem_cons.mp found with rfl | later
    · have digit : byte.toNat ≠ 0 := fun zero => counts (UInt8.toNat_inj.mp zero)
      omega
    · have := ih later
      omega

namespace Source

variable {want : Nat} {front more : List UInt8} {source : Source}

/-- As many bytes are taken as there are, up to the number wanted. -/
theorem length_takeUpTo (want : Nat) (pieces : List (List UInt8)) :
    (takeUpTo want pieces).1.length = min want pieces.flatten.length := by
  induction pieces generalizing want with
  | nil => simp [takeUpTo]
  | cons piece pieces ih =>
    have later := ih (want - piece.length)
    simp only [takeUpTo, List.flatten_cons, List.length_append]
    by_cases inside : want < piece.length
    · rw [if_pos inside]
      simp only [List.length_take]
      omega
    · rw [if_neg inside]
      simp only [List.length_append, later]
      omega

/-- Bytes that a source begins with are read from it, whatever their pieces. -/
theorem readUpTo_of_front (delivers : source.bytes = front ++ more) (width : front.length = want) :
    ∃ rest, source.readUpTo want = .ok (front, rest) ∧ rest.bytes = more ∧
      rest.failure = source.failure := by
  have count := length_takeUpTo want source.pieces
  have whole : (takeUpTo want source.pieces).1 ++ (takeUpTo want source.pieces).2.flatten =
      front ++ more := (takeUpTo_append want source.pieces).trans delivers
  rw [← bytes, delivers, List.length_append] at count
  have enough : (takeUpTo want source.pieces).1.length = front.length := by omega
  obtain ⟨taken, left⟩ := List.append_inj whole enough
  have full : ¬ front.length < want := by omega
  unfold readUpTo
  simp only [taken, if_neg full]
  split
  · exact ⟨_, rfl, left, rfl⟩
  · exact ⟨_, rfl, left, rfl⟩

end Source

namespace Wave

section Requiring

variable {want : Nat} {front more : List UInt8} {source : Source}

/-- What is wrong where a source ends, or fails, before a part of the data is there. -/
def lack (part : String) : Option IoError → Error
  | some failure => .io failure
  | none => .invalidWave (.truncated part)

/-- Bytes that a source begins with are required from it, whatever their pieces. -/
theorem require_of_front (part : String) (delivers : source.bytes = front ++ more)
    (width : front.length = want) :
    ∃ rest, require part want source = .ok (front, rest) ∧ rest.bytes = more ∧
      rest.failure = source.failure := by
  obtain ⟨rest, read, left, ending⟩ := Source.readUpTo_of_front delivers width
  have full : ¬ front.length < want := by omega
  refine ⟨rest, ?_, left, ending⟩
  rw [require, read]
  exact if_neg full

/-- Too few bytes are lacking for the way the source ends. -/
theorem require_of_lt (part : String) (few : source.bytes.length < want) :
    require part want source = .error (lack part source.failure) := by
  have count : (Source.takeUpTo want source.pieces).1.length < want := by
    rw [Source.length_takeUpTo, ← Source.bytes]
    omega
  rcases Option.eq_none_or_eq_some source.failure with ends | ⟨failure, fails⟩
  · simp only [require, Source.readUpTo, ends, if_pos count, lack]
  · simp only [require, Source.readUpTo, fails, if_pos count, lack]

end Requiring

section Turns

/-- What the bytes of a chunk come to. -/
inductive Progress where
  /-- Reading goes on with a format. -/
  | goesOn (format : Option Format)
  /-- The samples are read. -/
  | ends (format : Format) (samples : List Int16)

/-- What the head of a chunk asks for: a part of the data and how many bytes it has. -/
def asked (format : Option Format) (head : List UInt8) : Except WaveDefect (String × Nat) :=
  let length := field head 4 4
  if head.take 4 = formatTag then
    if length < formatLength.toNat then .error (.shortFormat length)
    else .ok ("fmt chunk", padded length)
  else if head.take 4 = dataTag then
    match format with
    | none => .error .dataBeforeFormat
    | some _ => .ok ("sample data", length)
  else .ok ("chunk", padded length)

/-- What the bytes that the head of a chunk asked for come to. -/
def progress (format : Option Format) (head body : List UInt8) : Except WaveDefect Progress :=
  if head.take 4 = formatTag then (formatOfBody body).map fun found => .goesOn (some found)
  else if head.take 4 = dataTag then
    match format with
    | none => .error .dataBeforeFormat
    | some found => .ok (.ends found (Samples.ofStream .little .little body))
  else .ok (.goesOn format)

/-- Chunks are read one at a time: a head, what it asks for, and what that comes to. -/
theorem readChunks_eq (format : Option Format) (source : Source) :
    readChunks format source =
      match require "chunk header" 8 source with
      | .error error => .error error
      | .ok (head, rest) =>
        match asked format head with
        | .error defect => .error (.invalidWave defect)
        | .ok (part, want) =>
          match require part want rest with
          | .error error => .error error
          | .ok (body, after) =>
            match progress format head body with
            | .error defect => .error (.invalidWave defect)
            | .ok (.ends found samples) => .ok (found, samples)
            | .ok (.goesOn format) => readChunks format after := by
  rw [readChunks]
  split
  · rename_i failed
    rw [failed]
  · rename_i head rest required
    rw [required]
    dsimp only [asked, progress]
    by_cases isFormat : head.take 4 = formatTag
    · simp only [if_pos isFormat]
      by_cases short : field head 4 4 < formatLength.toNat
      · simp only [if_pos short]
      · simp only [if_neg short]
        split
        · rename_i failed
          rw [failed]
        · rename_i body after required
          rw [required]
          dsimp only
          cases formatOfBody body <;> rfl
    · simp only [if_neg isFormat]
      by_cases isData : head.take 4 = dataTag
      · simp only [if_pos isData]
        cases format <;> rfl
      · simp only [if_neg isData]
        split
        · rename_i failed
          rw [failed]
        · rename_i body after required
          rw [required]

variable {format : Option Format} {head body : List UInt8} {part : String} {want : Nat}

/-- A head is refused for what it says, not for what is missing. -/
theorem asked_ne_truncated {defect : WaveDefect} (refused : asked format head = .error defect)
    (part : String) : defect ≠ .truncated part := by
  rintro rfl
  simp only [asked] at refused
  split at refused
  · split at refused <;> cases refused
  · split at refused
    · split at refused <;> cases refused
    · cases refused

/-- The part that a head asks for is no head. -/
theorem part_of_asked (asks : asked format head = .ok (part, want)) : part ≠ "chunk header" := by
  simp only [asked] at asks
  split at asks
  · split at asks
    · contradiction
    · obtain ⟨rfl, _⟩ := Prod.mk.inj (Except.ok.inj asks)
      decide
  · split at asks
    · split at asks
      · contradiction
      · obtain ⟨rfl, _⟩ := Prod.mk.inj (Except.ok.inj asks)
        decide
    · obtain ⟨rfl, _⟩ := Prod.mk.inj (Except.ok.inj asks)
      decide

/-- A head that counts bytes asks for some. -/
theorem want_of_asked (asks : asked format head = .ok (part, want))
    (counts : 0 < field head 4 4) : 0 < want := by
  have more : 0 < padded (field head 4 4) := Nat.lt_of_lt_of_le counts (Nat.le_add_right _ _)
  simp only [asked] at asks
  split at asks
  · split at asks <;> cases asks
    exact more
  · split at asks
    · split at asks <;> cases asks
      exact counts
    · cases asks
      exact more

/-- A body is refused for what it says, not for what is missing. -/
theorem progress_ne_truncated {defect : WaveDefect}
    (refused : progress format head body = .error defect) (part : String) :
    defect ≠ .truncated part := by
  rintro rfl
  simp only [progress, formatOfBody] at refused
  split at refused
  · split at refused <;> cases refused
  · split at refused
    · split at refused <;> cases refused
    · cases refused

end Turns

section Reach

/-- Reading ends because the data does. -/
def RunsOut (result : Except Error (Format × List Int16)) : Prop :=
  ∃ part, result = .error (.invalidWave (.truncated part))

/-- How far bytes take a reader. -/
inductive Reach (reader : Source → Except Error (Format × List Int16)) (bytes : List UInt8) :
    Prop where
  /-- The bytes settle the reading, whatever is behind them. -/
  | settled (result : Except Error (Format × List Int16)) (whole : ¬ RunsOut result)
    (reads : ∀ source more, source.bytes = bytes ++ more → reader source = result)
  /-- The bytes are too few for a part of the data, and more could be enough for it. -/
  | short (part : String)
    (stops : ∀ source, source.bytes = bytes → reader source = .error (lack part source.failure))
    (matters : ∃ more, ∀ source, source.bytes = bytes ++ more → source.failure = none →
      reader source ≠ .error (lack part none))

/-- A reader that goes on as another reader behind the first bytes reaches as far as the other one
does with those left. -/
theorem Reach.of_follows {reader next : Source → Except Error (Format × List Int16)}
    {bytes left : List UInt8}
    (follows : ∀ source more, source.bytes = bytes ++ more →
      ∃ after, after.bytes = left ++ more ∧ after.failure = source.failure ∧
        reader source = next after)
    (reach : Reach next left) : Reach reader bytes := by
  cases reach with
  | settled result whole reads =>
    refine .settled result whole fun source more delivers => ?_
    obtain ⟨after, behind, _, same⟩ := follows source more delivers
    rw [same]
    exact reads after more behind
  | short part stops matters =>
    obtain ⟨enough, differs⟩ := matters
    refine .short part (fun source delivers => ?_)
      ⟨enough, fun source delivers ends => ?_⟩
    · obtain ⟨after, behind, ending, same⟩ :=
        follows source [] (delivers.trans (List.append_nil _).symm)
      rw [same, ← ending]
      exact stops after (behind.trans (List.append_nil _))
    · obtain ⟨after, behind, ending, same⟩ := follows source enough delivers
      rw [same]
      exact differs after behind (ending.trans ends)

/-- A head that is missing could be one that asks for bytes. -/
theorem exists_head_of_lt {bytes : List UInt8} (few : bytes.length < 8) :
    ∃ more, (bytes ++ more).length = 8 ∧ 0 < field (bytes ++ more) 4 4 := by
  have seven : (bytes ++ List.replicate (7 - bytes.length) 0).length = 7 := by
    rw [List.length_append, List.length_replicate]
    omega
  refine ⟨List.replicate (7 - bytes.length) 0 ++ [1], ?_, ?_⟩
  · rw [← List.append_assoc, List.length_append, seven]
    rfl
  · have counts : (1 : UInt8) ≠ 0 := by decide
    rw [← List.append_assoc, field, List.drop_append_of_le_length (by omega),
      List.take_of_length_le (by rw [List.length_append, List.length_drop, seven]; decide)]
    exact Octets.decodeNat_pos (List.mem_append_right _ List.mem_cons_self) counts

/-- Bytes without a whole head are too few. -/
theorem reach_of_headless (format : Option Format) {bytes : List UInt8} (few : bytes.length < 8) :
    Reach (readChunks format) bytes := by
  obtain ⟨more, eight, counts⟩ := exists_head_of_lt few
  refine .short "chunk header" (fun source delivers => ?_) ⟨more, fun source delivers ends => ?_⟩
  · have missing : source.bytes.length < 8 := by rw [delivers]; exact few
    rw [readChunks_eq, require_of_lt _ missing]
  · obtain ⟨rest, required, nothing, ending⟩ :=
      require_of_front "chunk header" (delivers.trans (List.append_nil _).symm) eight
    rw [readChunks_eq, required]
    dsimp only
    cases asks : asked format (bytes ++ more) with
    | error defect =>
      intro same
      exact asked_ne_truncated asks _ (Error.invalidWave.inj (Except.error.inj same))
    | ok request =>
      obtain ⟨part, want⟩ := request
      have missing : rest.bytes.length < want := by
        rw [nothing]
        exact want_of_asked asks counts
      dsimp only
      rw [require_of_lt part missing, ending, ends]
      intro same
      have parts := WaveDefect.truncated.inj (Error.invalidWave.inj (Except.error.inj same))
      exact part_of_asked asks parts

section Headed

variable {format : Option Format} {head left : List UInt8} (eight : head.length = 8)
include eight

/-- Behind a head the chunks are read as the head says. -/
theorem exists_readChunks_of_head (format : Option Format) {source : Source} {more : List UInt8}
    (delivers : source.bytes = head ++ left ++ more) :
    ∃ rest, rest.bytes = left ++ more ∧ rest.failure = source.failure ∧
      readChunks format source =
        match asked format head with
        | .error defect => .error (.invalidWave defect)
        | .ok (part, want) =>
          match require part want rest with
          | .error error => .error error
          | .ok (body, after) =>
            match progress format head body with
            | .error defect => .error (.invalidWave defect)
            | .ok (.ends found samples) => .ok (found, samples)
            | .ok (.goesOn format) => readChunks format after := by
  obtain ⟨rest, required, behind, ending⟩ :=
    require_of_front "chunk header" (delivers.trans (List.append_assoc ..)) eight
  exact ⟨rest, behind, ending, by rw [readChunks_eq, required]⟩

/-- A head that is refused settles the reading. -/
theorem reach_of_refused_head {defect : WaveDefect} (refused : asked format head = .error defect) :
    Reach (readChunks format) (head ++ left) := by
  refine .settled (.error (.invalidWave defect)) ?_ fun source more delivers => ?_
  · rintro ⟨part, same⟩
    exact asked_ne_truncated refused part (Error.invalidWave.inj (Except.error.inj same))
  · obtain ⟨rest, _, _, read⟩ := exists_readChunks_of_head eight format delivers
    rw [read, refused]

variable {part : String} {want : Nat} (asks : asked format head = .ok (part, want))
include asks

/-- Bytes without all that a head asks for are too few. -/
theorem reach_of_bodiless (few : left.length < want) :
    Reach (readChunks format) (head ++ left) := by
  have padding : (left ++ List.replicate (want - left.length) 0).length = want := by
    rw [List.length_append, List.length_replicate]
    omega
  refine .short part (fun source delivers => ?_)
    ⟨List.replicate (want - left.length) 0, fun source delivers ends => ?_⟩
  · obtain ⟨rest, behind, ending, read⟩ :=
      exists_readChunks_of_head eight format (delivers.trans (List.append_nil _).symm)
    have missing : rest.bytes.length < want := by
      rw [behind, List.append_nil]
      exact few
    rw [read, asks]
    dsimp only
    rw [require_of_lt part missing, ending]
  · obtain ⟨rest, behind, ending, read⟩ := exists_readChunks_of_head eight format delivers
    obtain ⟨after, required, nothing, ending'⟩ :=
      require_of_front part (behind.trans (List.append_nil _).symm) padding
    rw [read, asks]
    dsimp only
    rw [required]
    dsimp only
    cases come : progress format head (left ++ List.replicate (want - left.length) 0) with
    | error defect =>
      intro same
      exact progress_ne_truncated come part (Error.invalidWave.inj (Except.error.inj same))
    | ok progress =>
      cases progress with
      | ends found samples => exact nofun
      | goesOn next =>
        -- Reading goes on, but only to miss the next head.
        have missing : after.bytes.length < 8 := by
          rw [nothing]
          decide
        dsimp only
        rw [readChunks_eq, require_of_lt _ missing, ending', ending, ends]
        intro same
        have parts := WaveDefect.truncated.inj (Error.invalidWave.inj (Except.error.inj same))
        exact part_of_asked asks parts.symm

/-- Behind a chunk the reader reaches as far as what the chunk comes to. -/
theorem reach_of_chunk {body behind : List UInt8} (parts : left = body ++ behind)
    (whole : body.length = want)
    (later : ∀ next, Reach (readChunks next) behind) :
    Reach (readChunks format) (head ++ left) := by
  have chunk (source : Source) (more : List UInt8)
      (delivers : source.bytes = head ++ left ++ more) :
      ∃ after, after.bytes = behind ++ more ∧ after.failure = source.failure ∧
        readChunks format source =
          match progress format head body with
          | .error defect => .error (.invalidWave defect)
          | .ok (.ends found samples) => .ok (found, samples)
          | .ok (.goesOn format) => readChunks format after := by
    obtain ⟨rest, back, ending, read⟩ := exists_readChunks_of_head eight format delivers
    rw [parts, List.append_assoc] at back
    obtain ⟨after, required, left, ending'⟩ := require_of_front part back whole
    refine ⟨after, left, ending'.trans ending, ?_⟩
    rw [read, asks]
    dsimp only
    rw [required]
  cases come : progress format head body with
  | error defect =>
    refine .settled (.error (.invalidWave defect)) ?_ fun source more delivers => ?_
    · rintro ⟨part, same⟩
      exact progress_ne_truncated come part (Error.invalidWave.inj (Except.error.inj same))
    · obtain ⟨after, _, _, read⟩ := chunk source more delivers
      rw [read, come]
  | ok progress =>
    cases progress with
    | ends found samples =>
      refine .settled (.ok (found, samples)) nofun fun source more delivers => ?_
      obtain ⟨after, _, _, read⟩ := chunk source more delivers
      rw [read, come]
    | goesOn next =>
      refine .of_follows (fun source more delivers => ?_) (later next)
      obtain ⟨after, back, ending, read⟩ := chunk source more delivers
      rw [come] at read
      exact ⟨after, back, ending, read⟩

end Headed

/-- However far chunks go, their bytes settle the reading or are too few. -/
theorem reach_readChunks (format : Option Format) (bytes : List UInt8) :
    Reach (readChunks format) bytes := by
  induction count : bytes.length using Nat.strongRecOn generalizing format bytes with
  | _ n ih =>
    by_cases headed : bytes.length < 8
    · exact reach_of_headless format headed
    · have eight : (bytes.take 8).length = 8 := by
        rw [List.length_take]
        omega
      rw [← List.take_append_drop 8 bytes]
      cases asks : asked format (bytes.take 8) with
      | error defect => exact reach_of_refused_head eight asks
      | ok request =>
        obtain ⟨part, want⟩ := request
        by_cases bodied : (bytes.drop 8).length < want
        · exact reach_of_bodiless eight asks bodied
        · have whole : ((bytes.drop 8).take want).length = want := by
            rw [List.length_take]
            omega
          apply reach_of_chunk eight asks (List.take_append_drop want (bytes.drop 8)).symm whole
          intro next
          apply ih _ _ next _ rfl
          simp only [List.length_drop]
          omega

/-- Bytes without a whole signature are too few. -/
theorem reach_of_unsigned {bytes : List UInt8} (few : bytes.length < 12) : Reach read bytes := by
  have padding : (bytes ++ List.replicate (12 - bytes.length) 0).length = 12 := by
    rw [List.length_append, List.length_replicate]
    omega
  refine .short "RIFF header" (fun source delivers => ?_)
    ⟨List.replicate (12 - bytes.length) 0, fun source delivers ends => ?_⟩
  · have missing : source.bytes.length < 12 := by
      rw [delivers]
      exact few
    rw [read, require_of_lt _ missing]
  · obtain ⟨rest, required, nothing, ending⟩ :=
      require_of_front "RIFF header" (delivers.trans (List.append_nil _).symm) padding
    rw [read, required]
    dsimp only
    split
    · have missing : rest.bytes.length < 8 := by
        rw [nothing]
        decide
      rw [readChunks_eq, require_of_lt _ missing, ending, ends]
      intro same
      have parts := WaveDefect.truncated.inj (Error.invalidWave.inj (Except.error.inj same))
      exact absurd parts (by decide)
    · intro same
      cases Error.invalidWave.inj (Except.error.inj same)

/-- Any bytes settle the reading or are too few. -/
theorem reach_read (bytes : List UInt8) : Reach read bytes := by
  by_cases unsigned : bytes.length < 12
  · exact reach_of_unsigned unsigned
  · have twelve : (bytes.take 12).length = 12 := by
      rw [List.length_take]
      omega
    have first (source : Source) (more : List UInt8) (delivers : source.bytes = bytes ++ more) :=
      have parted : source.bytes = bytes.take 12 ++ (bytes.drop 12 ++ more) := by
        rw [delivers, ← List.append_assoc, List.take_append_drop]
      require_of_front "RIFF header" parted twelve
    by_cases signed : (bytes.take 12).take 4 = riffTag ∧ (bytes.take 12).drop 8 = waveTag
    · refine .of_follows (fun source more delivers => ?_) (reach_readChunks none (bytes.drop 12))
      obtain ⟨rest, required, behind, ending⟩ := first source more delivers
      refine ⟨rest, behind, ending, ?_⟩
      rw [read, required]
      exact if_pos signed
    · refine .settled (.error (.invalidWave .missingSignature)) ?_ fun source more delivers => ?_
      · rintro ⟨part, same⟩
        cases Error.invalidWave.inj (Except.error.inj same)
      · obtain ⟨rest, required, _⟩ := first source more delivers
        rw [read, required]
        exact if_neg signed

end Reach

section Delivery

/-- A source that ends is read as the same bytes at once. -/
theorem read_of_ends {source : Source} (ends : source.failure = none) :
    read source = read (.ofBytes source.bytes) := by
  have once := Source.bytes_ofBytes source.bytes
  cases reach_read source.bytes with
  | settled result whole reads =>
    have here : read source = result := reads source [] (List.append_nil _).symm
    have there : read (.ofBytes source.bytes) = result :=
      reads (.ofBytes source.bytes) [] (once.trans (List.append_nil _).symm)
    rw [here, there]
  | short part stops matters =>
    rw [stops source rfl, stops (.ofBytes source.bytes) once, ends]
    rfl

/-- A source that fails is read as its failure if its bytes run out, and else as its bytes. -/
theorem read_of_fails {source : Source} {failure : IoError}
    (fails : source.failure = some failure) :
    RunsOut (read (.ofBytes source.bytes)) ∧ read source = .error (.io failure) ∨
      ¬ RunsOut (read (.ofBytes source.bytes)) ∧ read source = read (.ofBytes source.bytes) := by
  have once := Source.bytes_ofBytes source.bytes
  cases reach_read source.bytes with
  | settled result whole reads =>
    have here : read source = result := reads source [] (List.append_nil _).symm
    have there : read (.ofBytes source.bytes) = result :=
      reads (.ofBytes source.bytes) [] (once.trans (List.append_nil _).symm)
    rw [here, there]
    exact .inr ⟨whole, rfl⟩
  | short part stops matters =>
    have here : read source = .error (.io failure) := by
      rw [stops source rfl, fails]
      rfl
    exact .inl ⟨⟨part, stops (.ofBytes source.bytes) once⟩, here⟩

/-- Bytes run out exactly if there are bytes that make a difference behind them. -/
theorem runsOut_iff (bytes : List UInt8) :
    RunsOut (read (.ofBytes bytes)) ↔
      ∃ more, read (.ofBytes (bytes ++ more)) ≠ read (.ofBytes bytes) := by
  have once := Source.bytes_ofBytes bytes
  cases reach_read bytes with
  | settled result whole reads =>
    have plain : read (.ofBytes bytes) = result :=
      reads (.ofBytes bytes) [] (once.trans (List.append_nil _).symm)
    have longer (more : List UInt8) : read (.ofBytes (bytes ++ more)) = result :=
      reads (.ofBytes (bytes ++ more)) more (Source.bytes_ofBytes _)
    simp only [plain, longer, ne_eq, not_true_eq_false, exists_false, whole]
  | short part stops matters =>
    have plain : read (.ofBytes bytes) = .error (lack part none) := stops (.ofBytes bytes) once
    obtain ⟨more, differs⟩ := matters
    rw [plain]
    exact ⟨fun _ => ⟨more, differs (.ofBytes (bytes ++ more)) (Source.bytes_ofBytes _) rfl⟩,
      fun _ => ⟨part, rfl⟩⟩

end Delivery

/-- Data is read by its bytes. A source that ends is read as the same bytes at once, whatever the
pieces. A source that fails behind some first bytes is read as its failure exactly if those bytes
alone run out, and otherwise as they are. And bytes run out exactly if there are bytes that make a
difference behind them, so nothing is asked for that could not matter. -/
theorem reading_asks_for_what_matters (bytes : List UInt8) :
    (∀ source : Source, source.bytes = bytes → source.failure = none →
      read source = read (.ofBytes bytes)) ∧
    (∀ (k : Nat) (source : Source) (failure : IoError), source.bytes = bytes.take k →
      source.failure = some failure → failure.kind = .other →
      let front := read (.ofBytes (bytes.take k))
      (read source = .error (.io failure) ↔ RunsOut front) ∧
        (¬ RunsOut front → read source = front)) ∧
    (RunsOut (read (.ofBytes bytes)) ↔
      ∃ more, read (.ofBytes (bytes ++ more)) ≠ read (.ofBytes bytes)) := by
  refine ⟨fun source delivers ends => ?_, fun k source failure delivers fails _ => ?_,
    runsOut_iff bytes⟩
  · rw [← delivers]
    exact read_of_ends ends
  · rw [← delivers]
    intro front
    rcases read_of_fails fails with ⟨out, failed⟩ | ⟨whole, same⟩
    · exact ⟨⟨fun _ => out, fun _ => failed⟩, fun whole => absurd out whole⟩
    · -- Bytes that end are refused for a defect, never for a failure.
      have unfailed : read source ≠ .error (.io failure) := by
        intro failed
        obtain ⟨defect, other⟩ := exists_defect_of_read rfl (same.symm.trans failed)
        contradiction
      exact ⟨⟨fun failed => absurd failed unfailed, fun out => absurd out whole⟩, fun _ => same⟩

/-- A file without samples has a data chunk of no bytes. Cut into pieces of five bytes and with two
bytes behind it, it is read; if the source fails behind the last byte of the file it is still read;
if it fails one byte before, the failure is met. -/
theorem reading_asks_for_what_matters_without_samples :
    let bytes := data [] 48000 ++ [9, 9]
    let lost : IoError := .custom .other "read failed"
    let failing (k : Nat) : Source :=
      { pieces := Source.cut 5 (bytes.take k), failure := some lost }
    read { pieces := Source.cut 5 bytes } = .ok (.mono 48000, []) ∧
      lost.kind = .other ∧
      read (failing 44) = .ok (.mono 48000, []) ∧
      read (failing 43) = .error (.io lost) := by
  intro bytes lost failing
  have encodable : Encodable [] 48000 := ⟨by decide, by decide⟩
  have file : read (.ofBytes (data [] 48000)) = .ok (.mono 48000, []) := read_data encodable
  have whole : bytes.take 44 = data [] 48000 := List.take_left' (length_data [] 48000)
  have parts : bytes.take 43 ++ bytes.drop 43 = bytes := List.take_append_drop 43 bytes
  have longer : read (.ofBytes bytes) = .ok (.mono 48000, []) := by
    have behind := read_append file [9, 9]
    rwa [Source.bytes_ofBytes] at behind
  have pieced (k : Nat) : (failing k).bytes = bytes.take k := Source.flatten_cut 5 _
  obtain ⟨ended, failed, _⟩ := reading_asks_for_what_matters bytes
  obtain ⟨_, read_whole⟩ := failed 44 (failing 44) lost (pieced 44) rfl rfl
  obtain ⟨read_front, _⟩ := failed 43 (failing 43) lost (pieced 43) rfl rfl
  have settled : ¬ RunsOut (read (.ofBytes (bytes.take 44))) := by
    rw [whole, file]
    exact nofun
  have out : RunsOut (read (.ofBytes (bytes.take 43))) := by
    refine (reading_asks_for_what_matters (bytes.take 43)).2.2.mpr ⟨bytes.drop 43, ?_⟩
    obtain ⟨defect, refused⟩ := exists_defect_of_take encodable (show 43 < 44 + 2 * 0 by decide)
    have same : bytes.take 43 = (data [] 48000).take 43 := rfl
    rw [parts, longer, same, refused]
    exact nofun
  refine ⟨?_, rfl, ?_, read_front.mpr out⟩
  · rw [← longer]
    exact ended _ (Source.flatten_cut 5 bytes) rfl
  · rw [read_whole settled, whole, file]

end Wave

end PcmLink
