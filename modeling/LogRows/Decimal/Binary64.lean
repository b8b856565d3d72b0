/-!
# Double-precision numbers as exact integers

A finite double is held as a sign, a whole mantissa and a power of two, so that
every operation on it is exact integer arithmetic followed by one rounding.
`roundRatio` is that rounding: to the nearest double, an exact half going to
the even neighbour.  It answers `none` when the result is too large.
-/

namespace LogRows.Decimal

/-- A finite double: its magnitude is `mantissa * 2 ^ exponent`. -/
structure Binary64 where
  /-- Whether the number carries a minus sign; zero can carry one too. -/
  negative : Bool
  /-- The whole mantissa, below `2 ^ 53`. -/
  mantissa : Nat
  /-- The power of two that scales the mantissa, at least `-1074`. -/
  exponent : Int
deriving DecidableEq, Inhabited

/-- The smallest power of two that scales a mantissa. -/
def leastExponent : Int :=
  -1074

/-- The largest power of two that scales a mantissa. -/
def greatestExponent : Int :=
  971

/-- A quotient rounded to the nearest whole number, an exact half to the even one. -/
def divideToEven (numerator denominator : Nat) : Nat :=
  let quotient := numerator / denominator
  let twice := 2 * (numerator % denominator)
  if denominator < twice then
    quotient + 1
  else if twice = denominator then
    quotient + quotient % 2
  else
    quotient

/-- A number times a power of two, as numerator and denominator. -/
def scaleByPower (number : Nat) (exponent : Int) : Nat × Nat :=
  (number * Nat.pow 2 exponent.toNat, Nat.pow 2 (-exponent).toNat)

/-- The power of two that leaves a quotient between `2 ^ 52` and `2 ^ 53`, where there is one. -/
def fittingExponent (numerator denominator : Nat) : Int :=
  let estimate : Int := (numerator.log2 : Int) - denominator.log2
  let small :=
    numerator * Nat.pow 2 (-estimate).toNat < denominator * Nat.pow 2 estimate.toNat
  max ((if small then estimate - 1 else estimate) - 52) leastExponent

/-- The magnitude nearest to a quotient, as mantissa and exponent. -/
def roundRatio (numerator denominator : Nat) : Option (Nat × Int) :=
  if numerator = 0 then
    some (0, leastExponent)
  else
    let exponent := fittingExponent numerator denominator
    let mantissa :=
      divideToEven
        (numerator * Nat.pow 2 (-exponent).toNat)
        (denominator * Nat.pow 2 exponent.toNat)
    let (mantissa, exponent) :=
      if mantissa = Nat.pow 2 53 then (Nat.pow 2 52, exponent + 1) else (mantissa, exponent)
    if greatestExponent < exponent then none else some (mantissa, exponent)

/-- The magnitude nearest to a whole number. -/
def roundNat (number : Nat) : Option (Nat × Int) :=
  roundRatio number 1

/-- The product of two magnitudes, rounded. -/
def multiply (left right : Nat × Int) : Option (Nat × Int) :=
  let (numerator, denominator) :=
    scaleByPower (left.1 * right.1) (left.2 + right.2)
  roundRatio numerator denominator

/-- The quotient of two magnitudes, rounded. -/
def divide (left right : Nat × Int) : Option (Nat × Int) :=
  let (numerator, denominator) := scaleByPower left.1 (left.2 - right.2)
  roundRatio numerator (denominator * right.1)

/-- One tenth rounds to the mantissa that every reader of decimals knows. -/
example : roundRatio 1 10 = some (0x1999999999999A, -56) := by decide

/-- Beyond the largest double nothing is left to round to. -/
example : roundNat (Nat.pow 2 1024) = none := by decide +kernel

end LogRows.Decimal
