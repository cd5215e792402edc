import PcmLink.Error
import PcmLink.Text.Blank

/-!
# Link speeds

The link can be forced to one of two speeds. An option is read without the blanks around it and
without the unit letters at its end; whatever else it says is refused as it was given, before
anything is asked of the link.
-/

namespace PcmLink

/-- A speed the link can be forced to. -/
inductive LinkSpeed where
  /-- A hundred megabits a second. -/
  | fast
  /-- Ten megabits a second. -/
  | slow
  deriving DecidableEq, Repr

namespace LinkSpeed

/-- Megabits a second. -/
def megabits : LinkSpeed → Nat
  | .fast => 100
  | .slow => 10

/-- The text of a speed. -/
def text (speed : LinkSpeed) : String := s!"{speed.megabits} Mb/s"

/-- The letter of the unit. -/
def isUnit (c : Char) : Bool := c == 'M' || c == 'm'

/-- The speed that an option names. -/
def parse (option : String) : Except Error LinkSpeed :=
  let digits := Text.dropEndWhile isUnit (Text.trim option.toList)
  if digits = ['1', '0', '0'] then .ok .fast
  else if digits = ['1', '0'] then .ok .slow
  else .error (.invalidSpeed option)

end LinkSpeed

end PcmLink
