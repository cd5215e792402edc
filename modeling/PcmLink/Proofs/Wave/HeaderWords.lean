import PcmLink.Proofs.Wave.RoundTrip

/-!
# The words of a header on the way

Before a header is built, the size it will state is compared with the end of a word. The size itself
is computed another way: the length of the whole header is added to that of the samples, and eight
is taken off the sum. So the sum can pass the end of a word where the size does not. Arithmetic that
wraps comes back to the size all the same. Arithmetic that may not leave the words finds no size for
four lengths that were let through.
-/

namespace PcmLink

/-- The sum of two words, if it is a word. -/
def Octets.sum? (left right : UInt32) : Option UInt32 :=
  if left.toNat + right.toNat < UInt32.size then some (left + right) else none

/-- The difference of two words, if it is a word. -/
def Octets.difference? (left right : UInt32) : Option UInt32 :=
  if right.toNat ≤ left.toNat then some (left - right) else none

namespace Wave

/-- The size in the signature, if no step on the way to it leaves the words. -/
def riffLength? (dataLength : UInt32) : Option UInt32 := do
  let whole ← Octets.sum? dataLength headerLength
  Octets.difference? whole 8

/-- The length of the samples in bytes, if it is let through, unless a step on the way leaves the
words. A sum that is itself checked is no such step. -/
def admitted? (samples : List Int16) : Option (Option UInt32) := do
  let behind ← Octets.difference? headerLength 8
  let bytes := 2 * samples.length
  if bytes < UInt32.size then
    some ((Octets.sum? (UInt32.ofNat bytes) behind).map fun _ => UInt32.ofNat bytes)
  else some none

/-- Write a file of mono samples, unless a step on the way to its header leaves the words. -/
def write? (sink : Sink) (samples : List Int16) (sampleRate : UInt32) :
    Option (Except Error Unit × Sink) := do
  match ← admitted? samples, (Format.mono sampleRate).byteRate? with
  | some dataLength, some _ =>
    let _ ← riffLength? dataLength
    some (write sink samples sampleRate)
  | _, _ => some (write sink samples sampleRate)

section Steps

/-- The only step that can leave the words is the sum. -/
theorem riffLength?_eq (dataLength : UInt32) :
    riffLength? dataLength =
      if dataLength.toNat + 44 < UInt32.size then some (riffLength dataLength) else none := by
  have header : headerLength.toNat = 44 := rfl
  by_cases fits : dataLength.toNat + 44 < UInt32.size
  · have sum : (dataLength + headerLength).toNat = dataLength.toNat + 44 := by
      rw [UInt32.toNat_add, header]
      exact Nat.mod_eq_of_lt fits
    have eight : (8 : UInt32).toNat ≤ (dataLength + headerLength).toNat := by
      rw [sum]
      exact Nat.le_trans (by decide) (Nat.le_add_left 44 _)
    rw [if_pos fits, riffLength?, Octets.sum?, header, if_pos fits]
    exact if_pos eight
  · rw [if_neg fits, riffLength?, Octets.sum?, header, if_neg fits]
    rfl

/-- What is let through is what the writer lets through, and no step on the way leaves the words. -/
theorem admitted?_eq (samples : List Int16) : admitted? samples = some (dataLength? samples) := by
  have word : UInt32.size = 4294967296 := rfl
  have behind : Octets.difference? headerLength 8 = some 36 := rfl
  have least : (headerLength - 8).toNat = 36 := rfl
  have slack : (36 : UInt32).toNat = 36 := rfl
  rw [admitted?, behind, dataLength?, least]
  dsimp only [bind, Option.bind]
  by_cases short : 2 * samples.length < UInt32.size
  · rw [if_pos short, Octets.sum?, UInt32.toNat_ofNat_of_lt' short, slack]
    split <;> rfl
  · rw [if_neg short, if_neg (by omega)]

end Steps

section Overflow

variable (sink : Sink) (samples : List Int16) (sampleRate : UInt32)

/-- Samples pass the checks of the writer exactly if the header words hold their sizes. -/
theorem exists_headerOf_iff :
    (∃ header, headerOf samples sampleRate = .ok header) ↔ Encodable samples sampleRate := by
  constructor
  · rintro ⟨header, built⟩
    refine Classical.byContradiction fun never => ?_
    obtain ⟨defect, refused⟩ := exists_headerOf_error never
    cases built.symm.trans refused
  · intro encodable
    obtain ⟨header, built, _⟩ := exists_headerOf encodable
    exact ⟨header, built⟩

/-- Unless the samples pass the checks and the sum leaves the words, writing within the words is
writing. -/
theorem write?_cases :
    (Encodable samples sampleRate ∧ UInt32.size ≤ 2 * samples.length + 44 ∧
      write? sink samples sampleRate = none) ∨
    (¬ (Encodable samples sampleRate ∧ UInt32.size ≤ 2 * samples.length + 44) ∧
      write? sink samples sampleRate = some (write sink samples sampleRate)) := by
  have least : (headerLength - 8).toNat = 36 := rfl
  rw [write?, admitted?_eq, byteRate?_mono, dataLength?, least]
  dsimp only [bind, Option.bind]
  by_cases size : 2 * samples.length + 36 < UInt32.size
  · have counted : (UInt32.ofNat (2 * samples.length)).toNat = 2 * samples.length :=
      UInt32.toNat_ofNat_of_lt' (by omega)
    by_cases rate : 2 * sampleRate.toNat < UInt32.size
    · rw [if_pos size, if_pos rate]
      dsimp only
      rw [riffLength?_eq, counted]
      by_cases fits : 2 * samples.length + 44 < UInt32.size
      · rw [if_pos fits]
        exact .inr ⟨fun beyond => absurd fits (Nat.not_lt.mpr beyond.2), rfl⟩
      · rw [if_neg fits]
        exact .inl ⟨⟨size, rate⟩, Nat.not_lt.mp fits, rfl⟩
    · rw [if_pos size, if_neg rate]
      exact .inr ⟨fun passed => rate passed.1.rate, rfl⟩
  · rw [if_neg size]
    exact .inr ⟨fun passed => size passed.1.size, rfl⟩

end Overflow

/-- Samples that pass the checks of the writer are written without leaving the words, and then as
they are otherwise, exactly if the bytes of their whole file are a word. Of the lengths that pass
there are four for which they are not. -/
theorem header_stays_within_words_iff (sink : Sink) (samples : List Int16) (sampleRate : UInt32) :
    let passes := ∃ header, headerOf samples sampleRate = .ok header
    (passes → (write? sink samples sampleRate = some (write sink samples sampleRate) ↔
      2 * samples.length + 44 < UInt32.size)) ∧
    (¬ passes → write? sink samples sampleRate = some (write sink samples sampleRate)) ∧
    (write? sink samples sampleRate = none ↔
      2 * sampleRate.toNat < UInt32.size ∧
        2147483626 ≤ samples.length ∧ samples.length ≤ 2147483629) := by
  have word : UInt32.size = 4294967296 := rfl
  intro passes
  have checked : passes ↔ Encodable samples sampleRate := exists_headerOf_iff samples sampleRate
  rw [checked]
  rcases write?_cases sink samples sampleRate with ⟨passed, beyond, failed⟩ | ⟨within, written⟩
  · have size := passed.size
    rw [failed]
    refine ⟨fun _ => ⟨?_, ?_⟩, fun refused => absurd passed refused, fun _ => ?_, fun _ => rfl⟩
    · intro wrong
      contradiction
    · omega
    · exact ⟨passed.rate, by omega, by omega⟩
  · rw [written]
    refine ⟨fun passed => ⟨fun _ => ?_, fun _ => rfl⟩, fun _ => rfl, ?_, ?_⟩
    · exact Nat.lt_of_not_le fun beyond => within ⟨passed, beyond⟩
    · intro wrong
      contradiction
    · rintro ⟨rate, long, short⟩
      exact absurd ⟨⟨by omega, rate⟩, by omega⟩ within

/-- The least of the four lengths leaves the words on the way, although it passes the checks, and
the lengths on both sides of the four do not. -/
theorem header_stays_within_words_iff_edges :
    let zeros (count : Nat) : List Int16 := List.replicate count 0
    (∃ header, headerOf (zeros 2147483626) 8000 = .ok header) ∧
      write? {} (zeros 2147483626) 8000 = none ∧
      write? {} (zeros 2147483625) 8000 = some (write {} (zeros 2147483625) 8000) ∧
      write? {} (zeros 2147483630) 8000 = some (write {} (zeros 2147483630) 8000) := by
  intro zeros
  have width (count : Nat) : (zeros count).length = count := List.length_replicate
  have least := width 2147483626
  have below := width 2147483625
  have above := width 2147483630
  have word : UInt32.size = 4294967296 := rfl
  have slow : (8000 : UInt32).toNat = 8000 := rfl
  have passes := (exists_headerOf_iff (zeros 2147483626) 8000).mpr ⟨by omega, by omega⟩
  have calm := (exists_headerOf_iff (zeros 2147483625) 8000).mpr ⟨by omega, by omega⟩
  have refused := mt (exists_headerOf_iff (zeros 2147483630) 8000).mp fun fits => by
    have size := fits.size
    omega
  obtain ⟨_, _, beyond⟩ := header_stays_within_words_iff {} (zeros 2147483626) 8000
  obtain ⟨within, _, _⟩ := header_stays_within_words_iff {} (zeros 2147483625) 8000
  obtain ⟨_, untouched, _⟩ := header_stays_within_words_iff {} (zeros 2147483630) 8000
  exact ⟨passes, beyond.mpr ⟨by omega, by omega, by omega⟩, (within calm).mpr (by omega),
    untouched refused⟩

end Wave

end PcmLink
