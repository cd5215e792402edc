/-!
# Text between separators

Splitting cuts a text at every separator and keeps what stands between, empty parts included, so
a text with `n` separators has `n + 1` parts.
-/

namespace PcmLink.Text

/-- The parts of a text between the characters that satisfy `isSeparator`. -/
def split (isSeparator : Char → Bool) : List Char → List (List Char)
  | [] => [[]]
  | c :: text =>
    if isSeparator c then [] :: split isSeparator text
    else match split isSeparator text with
      | [] => [[c]]
      | part :: parts => (c :: part) :: parts

end PcmLink.Text
