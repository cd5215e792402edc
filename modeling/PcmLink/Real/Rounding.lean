/-!
# Decimal fractions as binary numbers of 64 bits

A decimal fraction is rounded to the nearest number with a significand of 53 bits, a tie going to
the even significand. Numbers beyond the largest become infinite and numbers below half the
smallest become zero. The arithmetic is exact, over natural numbers.
-/

namespace PcmLink

/-- A number in the 64-bit binary format. -/
inductive Binary64 where
  /-- No number. -/
  | nan
  /-- Beyond every number, with its sign. -/
  | infinite (negative : Bool)
  /-- The number `significand * 2 ^ exponent`, with its sign. -/
  | finite (negative : Bool) (significand : Nat) (exponent : Int)
  deriving DecidableEq, Repr

namespace Binary64

/-- The least significand of a number that is not subnormal. -/
def leastNormal : Nat := 0x10000000000000

/-- The least exponent of a number. -/
def leastExponent : Int := -1074

/-- The greatest exponent of a number. -/
def greatestExponent : Int := 971

/-- A quotient rounded to the nearest natural number, a tie to the even one. -/
def roundQuotient (numerator denominator : Nat) : Nat :=
  let floor := numerator / denominator
  let twice := 2 * (numerator % denominator)
  if twice < denominator then floor
  else if denominator < twice then floor + 1
  else floor + floor % 2

/-- Numerator and denominator of `value * base ^ exponent`. -/
def scale (value base : Nat) (exponent : Int) : Nat × Nat :=
  match exponent with
  | .ofNat power => (value * Nat.pow base power, 1)
  | .negSucc power => (value, Nat.pow base (power + 1))

/-- The number nearest to a positive quotient. -/
def ofQuotient (negative : Bool) (numerator denominator : Nat) : Binary64 :=
  let guess : Int := Nat.log2 numerator - Nat.log2 denominator - 52
  let rounded (exponent : Int) : Nat :=
    let (up, down) := scale denominator 2 exponent
    roundQuotient (numerator * down) up
  let lower := max (guess - 1) leastExponent
  let exponent := if rounded lower ≤ 2 * leastNormal then lower else lower + 1
  let significand := rounded exponent
  let (significand, exponent) :=
    if significand = 2 * leastNormal then (leastNormal, exponent + 1) else (significand, exponent)
  if exponent > greatestExponent then .infinite negative
  else .finite negative significand exponent

/-- The number nearest to `digits * 10 ^ exponent`. Exponents far outside the range of the format
are decided by the count of digits alone. -/
def ofDecimal (negative : Bool) (digits : Nat) (exponent : Int) : Binary64 :=
  let magnitude := (Nat.toDigits 10 digits).length + exponent
  if digits = 0 ∨ magnitude < -330 then .finite negative 0 leastExponent
  else if 310 < magnitude then .infinite negative
  else
    let (numerator, denominator) := scale digits 10 exponent
    ofQuotient negative numerator denominator

end Binary64

end PcmLink
