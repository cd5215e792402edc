import PcmLink.Real.Rounding

/-!
# The shortest decimal fraction of a binary number

A number is written with the fewest digits that are read back as it, and of two such fractions
with the one nearer to it. A format says which of two equally near ones it is, and which numbers
have an exponent; all others are written out, and a whole one among them shows one decimal zero.
-/

namespace PcmLink.Binary64

/-- How numbers are written. -/
structure Format where
  /-- Of two equally near fractions the one with an even last digit is written, and not the
  greater. -/
  tiesToEven : Bool
  /-- The least and the greatest power of ten that the first digit of a number can stand for if the
  number is written without an exponent. -/
  writtenOut : Option (Int × Int)
  deriving DecidableEq, Repr

/-- Twice the significand and the two half steps around it, on a grid fine enough that the halves
are whole: the number, the lower end and the upper end of what is rounded to it. -/
def interval (significand : Nat) (exponent : Int) : Nat × Nat × Nat :=
  let center := 4 * significand
  let below := if significand = leastNormal ∧ leastExponent < exponent then 1 else 2
  (center, center - below, center + 2)

/-- The digits and the decimal exponent of the best fraction with step `10 ^ step`, if one of the
two neighbours of the number on that grid is rounded to it. -/
def onGrid? (tiesToEven : Bool) (significand : Nat) (exponent step : Int) : Option (Nat × Int) :=
  let (center, low, high) := interval significand exponent
  let (unit, units) := scale 1 2 (exponent - 2)
  let (tenUp, tenDown) := scale 1 10 step
  -- a grid point `k` lies at `k * tenUp * units`, the number at `center * unit * tenDown`
  let at_ (n : Nat) : Nat := n * unit * tenDown
  let pace := tenUp * units
  let floor := at_ center / pace
  let even := significand % 2 = 0
  let inside (k : Nat) : Bool :=
    let place := k * pace
    (at_ low < place || (even && place = at_ low)) &&
      (place < at_ high || (even && place = at_ high))
  let down := inside floor
  let up := inside (floor + 1)
  let toFloor := at_ center - floor * pace
  let toNext := (floor + 1) * pace - at_ center
  let nearDown := toFloor < toNext || (tiesToEven && toFloor == toNext && floor % 2 == 0)
  if down && (!up || nearDown) then some (floor, step)
  else if up then some (floor + 1, step)
  else none

/-- The first grid that holds a fraction, from `count` steps coarser grids down to the finest. -/
def firstGrid (tiesToEven : Bool) (significand : Nat) (exponent : Int) : Nat → Int → Nat × Int
  | 0, step => (significand, step)
  | count + 1, step =>
    match onGrid? tiesToEven significand exponent step with
    | some found => found
    | none => firstGrid tiesToEven significand exponent count (step - 1)

/-- The shortest digits of a positive number and their decimal exponent. -/
def shortest (tiesToEven : Bool) (significand : Nat) (exponent : Int) : Nat × Int :=
  let (numerator, denominator) := scale significand 2 exponent
  let whole := numerator / denominator
  let top : Int :=
    if 0 < whole then (Nat.toDigits 10 whole).length
    else 1 - (Nat.toDigits 10 (denominator / numerator)).length
  firstGrid tiesToEven significand exponent 25 top

/-- Digits with a decimal exponent, written out. -/
def positional (digits : Nat) (exponent : Int) : String :=
  match exponent with
  | .ofNat zeros => toString (digits * Nat.pow 10 zeros) ++ ".0"
  | .negSucc fewer =>
    let places := fewer + 1
    let written := Nat.toDigits 10 digits
    let padded := List.replicate (places + 1 - written.length) '0' ++ written
    let whole := padded.take (padded.length - places)
    String.ofList (whole ++ '.' :: padded.drop (padded.length - places))

/-- Digits with a decimal exponent, written with a point after the first digit and the power of ten
that it stands for, which always shows its sign. -/
def scientific (digits : Nat) (exponent : Int) : String :=
  let written := Nat.toDigits 10 digits
  let power := exponent + (written.length - 1 : Nat)
  let fraction := if written.length ≤ 1 then [] else '.' :: written.drop 1
  let sign := if power < 0 then '-' else '+'
  String.ofList (written.take 1 ++ fraction ++ 'e' :: sign :: Nat.toDigits 10 power.natAbs)

/-- The text of a number. -/
def text (format : Format) : Binary64 → String
  | .nan => "NaN"
  | .infinite negative => if negative then "-inf" else "inf"
  | .finite negative significand exponent =>
    let magnitude :=
      if significand = 0 then "0.0"
      else
        let (digits, step) := shortest format.tiesToEven significand exponent
        let power := step + ((Nat.toDigits 10 digits).length - 1 : Nat)
        if format.writtenOut.all fun (least, greatest) => least ≤ power && power ≤ greatest then
          positional digits step
        else scientific digits step
    if negative then "-" ++ magnitude else magnitude

end PcmLink.Binary64
