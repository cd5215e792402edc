import Mathlib.Data.List.TakeWhile
import PcmLink.Text.Blank

/-!
# Text without its ends

What is left of a text when a run of characters is dropped from one of its ends, said of the whole
text: it is what is left and a run of such characters, and what is left does not go on with one. So
a text without the blanks around it is the part between two runs of blanks that has none at its own
ends.
-/

namespace PcmLink.Text

variable {drop : Char → Bool} {text kept : List Char}

/-- What is left behind a run of dropped characters does not begin with one. -/
theorem dropWhile_eq_iff :
    text.dropWhile drop = kept ↔
      (∃ front, (∀ c ∈ front, drop c = true) ∧ text = front ++ kept) ∧
        ∀ c ∈ kept.head?, drop c = false := by
  constructor
  · rintro rfl
    refine ⟨⟨text.takeWhile drop, fun c => List.mem_takeWhile_imp,
      List.takeWhile_append_dropWhile.symm⟩, ?_⟩
    intro c first
    have stays := text.head?_dropWhile_not drop
    rw [Option.mem_def.mp first] at stays
    exact stays
  · rintro ⟨⟨front, dropped, rfl⟩, stays⟩
    rw [List.dropWhile_append_of_pos dropped]
    cases kept with
    | nil => rfl
    | cons c rest =>
      apply List.dropWhile_cons_of_neg
      rw [stays c rfl]
      exact Bool.false_ne_true

/-- What is left in front of a run of dropped characters does not end with one. -/
theorem dropEndWhile_eq_iff :
    dropEndWhile drop text = kept ↔
      (∃ back, (∀ c ∈ back, drop c = true) ∧ text = kept ++ back) ∧
        ∀ c ∈ kept.getLast?, drop c = false := by
  rw [dropEndWhile, List.reverse_eq_iff, dropWhile_eq_iff, List.head?_reverse]
  apply and_congr_left'
  constructor
  · rintro ⟨front, dropped, whole⟩
    refine ⟨front.reverse, fun c found => dropped c (List.mem_reverse.mp found), ?_⟩
    rw [← text.reverse_reverse, whole, List.reverse_append, List.reverse_reverse]
  · rintro ⟨back, dropped, rfl⟩
    exact ⟨back.reverse, fun c found => dropped c (List.mem_reverse.mp found),
      List.reverse_append⟩

/-- A text is trimmed to the part between two runs of blanks that has none at its ends. -/
theorem trim_eq_iff :
    trim text = kept ↔
      (∃ front back, (∀ c ∈ front ++ back, isBlank c = true) ∧ text = front ++ kept ++ back) ∧
        (∀ c ∈ kept.head?, isBlank c = false) ∧ ∀ c ∈ kept.getLast?, isBlank c = false := by
  rw [trim, dropEndWhile_eq_iff]
  constructor
  · rintro ⟨⟨back, behind, rest⟩, last⟩
    obtain ⟨⟨front, before, whole⟩, first⟩ := dropWhile_eq_iff.mp rest
    refine ⟨⟨front, back, List.forall_mem_append.mpr ⟨before, behind⟩, ?_⟩, ?_, last⟩
    · rw [whole, List.append_assoc]
    · intro c head
      apply first
      rw [Option.mem_def, List.head?_append, Option.mem_def.mp head]
      rfl
  · rintro ⟨⟨front, back, blank, rfl⟩, first, last⟩
    obtain ⟨before, behind⟩ := List.forall_mem_append.mp blank
    refine ⟨?_, last⟩
    rw [List.append_assoc, List.dropWhile_append_of_pos before]
    cases kept with
    | nil =>
      refine ⟨[], fun c none => absurd none List.not_mem_nil, ?_⟩
      rw [List.nil_append, List.append_nil, List.dropWhile_eq_nil_iff]
      exact behind
    | cons c rest =>
      refine ⟨back, behind, List.dropWhile_cons_of_neg ?_⟩
      rw [first c rfl]
      exact Bool.false_ne_true

/-- A text stands in a line between blanks and has none at its own ends. -/
structure Stands (text line : String) : Prop where
  /-- There are blanks around it and nothing else. -/
  around : ∃ front back, (∀ c ∈ front ++ back, isBlank c = true) ∧
    line.toList = front ++ text.toList ++ back
  /-- It does not begin with a blank. -/
  first : ∀ c ∈ text.toList.head?, isBlank c = false
  /-- It does not end with a blank. -/
  last : ∀ c ∈ text.toList.getLast?, isBlank c = false

/-- The text that stands in a line is the line trimmed. -/
theorem stands_iff {text line : String} : Stands text line ↔ trim line.toList = text.toList := by
  rw [trim_eq_iff]
  constructor
  · intro stands
    exact ⟨stands.around, stands.first, stands.last⟩
  · intro parts
    exact { around := parts.1, first := parts.2.1, last := parts.2.2 }

end PcmLink.Text
