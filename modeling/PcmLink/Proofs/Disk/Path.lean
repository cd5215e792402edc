import PcmLink.Disk.Path

/-!
# Characters of paths

The text of the directory of a path is made of characters of the path, of slashes between its
parts, and of the dot that stands for the working directory. What ends a path for the system is
none of these, so it is in the text of the directory only if it is in the path.
-/

namespace PcmLink

/-- The parts of a text are made of its characters. -/
theorem Text.mem_of_mem_split {isSeparator : Char → Bool} {text part : List Char} {c : Char}
    (found : part ∈ split isSeparator text) (inside : c ∈ part) : c ∈ text := by
  induction text generalizing part with
  | nil =>
    obtain rfl := List.mem_singleton.mp found
    exact inside
  | cons first text ih =>
    rw [split] at found
    split at found
    · rcases List.mem_cons.mp found with rfl | later
      · contradiction
      · exact List.mem_cons_of_mem _ (ih later inside)
    · split at found
      · obtain rfl := List.mem_singleton.mp found
        obtain rfl := List.mem_singleton.mp inside
        exact List.mem_cons_self
      · rename_i front back parts
        rcases List.mem_cons.mp found with rfl | later
        · rcases List.mem_cons.mp inside with rfl | kept
          · exact List.mem_cons_self
          · exact List.mem_cons_of_mem _ (ih (parts ▸ List.mem_cons_self) kept)
        · exact List.mem_cons_of_mem _ (ih (parts ▸ List.mem_cons_of_mem _ later) inside)

namespace Path

/-- Only parts that are there are left. -/
theorem mem_of_mem_withoutRests {parts : List String} {part : String}
    (found : part ∈ withoutRests parts) : part ∈ parts := by
  unfold withoutRests at found
  split at found
  · exact found
  · exact found
  · rcases List.mem_cons.mp found with rfl | later
    · exact List.mem_cons_self
    · rw [List.mem_reverse] at later
      have kept := List.dropWhile_sublist _ |>.subset later
      exact List.mem_cons_of_mem _ (List.mem_reverse.mp kept)

/-- Parts with slashes between them are made of slashes and their own characters. -/
theorem mem_of_mem_intercalate {parts : List String} {c : Char}
    (found : c ∈ ("/".intercalate parts).toList) : c = '/' ∨ ∃ part ∈ parts, c ∈ part.toList := by
  induction parts with
  | nil => simp at found
  | cons part rest ih =>
    cases rest with
    | nil =>
      rw [String.intercalate_singleton] at found
      exact .inr ⟨part, List.mem_cons_self, found⟩
    | cons next rest =>
      rw [String.intercalate_cons_cons, String.toList_append, String.toList_append,
        List.mem_append, List.mem_append] at found
      rcases found with (own | slash) | later
      · exact .inr ⟨part, List.mem_cons_self, own⟩
      · exact .inl (by simpa using slash)
      · rcases ih later with slash | ⟨other, among, inside⟩
        · exact .inl slash
        · exact .inr ⟨other, List.mem_cons_of_mem _ among, inside⟩

/-- The text of a directory is made of characters of the path, slashes and a dot. -/
theorem mem_of_mem_directoryText {path : String} {c : Char}
    (found : c ∈ (directoryText path).toList) : c = '.' ∨ c = '/' ∨ c ∈ path.toList := by
  simp only [directoryText] at found
  split at found
  · exact .inl (by simpa using found)
  · exact .inr (.inl (by simpa using found))
  · rcases mem_of_mem_intercalate found with slash | ⟨part, among, inside⟩
    · exact .inr (.inl slash)
    · have written := mem_of_mem_withoutRests
        (List.dropLast_subset _ (mem_of_mem_withoutRests among))
      obtain ⟨text, piece, rfl⟩ := List.mem_map.mp written
      rw [String.toList_ofList] at inside
      exact .inr (.inr (Text.mem_of_mem_split piece inside))

/-- The text of a directory holds the character that ends paths only if the path does. -/
theorem hasNul_of_directoryText {path : String} (found : hasNul (directoryText path)) :
    hasNul path := by
  simp only [hasNul, List.contains_iff_mem] at found ⊢
  rcases mem_of_mem_directoryText found with dot | slash | inside
  · exact absurd dot (by decide)
  · exact absurd slash (by decide)
  · exact inside

end Path

end PcmLink
