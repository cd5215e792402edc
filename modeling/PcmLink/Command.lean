import PcmLink.Speed
import PcmLink.Text.Blank

/-!
# Operator commands

A line without the blanks around it is a command or it is ignored: `0` sends a frame, `1` and `2`
ask for the two speeds, and `speed` with a space and an option asks for the speed that the option
names. The option is judged only when the command is carried out.
-/

namespace PcmLink

/-- A command of the operator. -/
inductive Command where
  /-- Send a frame now. -/
  | sendNow
  /-- Force the speed that an option names. -/
  | setSpeed (option : String)
  deriving DecidableEq, Repr

namespace Command

/-- The command that a line gives, if it gives one. -/
def parse (line : String) : Option Command :=
  let text := Text.trim line.toList
  if text = ['0'] then some .sendNow
  else if text = ['1'] then some (.setSpeed "100")
  else if text = ['2'] then some (.setSpeed "10")
  else
    (Text.afterPrefix? "speed ".toList text).map fun option =>
      .setSpeed (String.ofList (Text.trim option))

end Command

end PcmLink
