/-!
# Blank characters

The characters of the White_Space property, and text without the blanks at its ends. Trimming
removes whole runs of blanks from the ends and nothing from the inside.
-/

namespace PcmLink.Text

/-- The character has the White_Space property. -/
def isBlank (c : Char) : Bool :=
  let n := c.toNat
  (0x09 ≤ n && n ≤ 0x0d) || n == 0x20 || n == 0x85 || n == 0xa0 || n == 0x1680 ||
    (0x2000 ≤ n && n ≤ 0x200a) || n == 0x2028 || n == 0x2029 || n == 0x202f || n == 0x205f ||
    n == 0x3000

/-- Text without the characters at its end that satisfy `drop`. -/
def dropEndWhile (drop : Char → Bool) (text : List Char) : List Char :=
  (text.reverse.dropWhile drop).reverse

/-- Text without the blanks at both ends. -/
def trim (text : List Char) : List Char := dropEndWhile isBlank (text.dropWhile isBlank)

/-- The string without the blanks at both ends. -/
def trimmed (text : String) : String := String.ofList (trim text.toList)

/-- What follows `start` at the front of the text. -/
def afterPrefix? : List Char → List Char → Option (List Char)
  | [], text => some text
  | _ :: _, [] => none
  | c :: start, d :: text => if c = d then afterPrefix? start text else none

/-- A text that begins with `start` is `start` and what follows it. -/
theorem afterPrefix?_eq_some_iff {start text rest : List Char} :
    afterPrefix? start text = some rest ↔ text = start ++ rest := by
  induction start generalizing text with
  | nil => simp [afterPrefix?]
  | cons c start ih =>
    cases text with
    | nil => simp [afterPrefix?]
    | cons d text =>
      by_cases same : c = d
      · subst same
        simp [afterPrefix?, ih]
      · simp [afterPrefix?, same, Ne.symm same]

end PcmLink.Text
