import LogRows.Decimal.Binary64

/-!
# The shortest decimal that reads back

`shortest` finds the digits a double is written with: the fewest digits that
no other double is nearer to, and of those the ones nearest to the double.  If
two decimals are equally near, a `Tie` rule chooses between them.  A decimal of `n` digits is a point of a grid.  The search tries `n = 1, 2, …`
and on each grid only the two neighbours of the double, in exact integers.

The two ways to write the digits down are `positional`, which never uses an
exponent, and `compact`, which uses one for very large and very small numbers.
In the first a tie goes up, in the second to the even digit.
-/

namespace LogRows.Decimal

/-- The decimal `0.d₁d₂…dₙ * 10 ^ point`. -/
structure Digits where
  /-- The digits from the first that is not zero to the last that is not zero. -/
  digits : List Char
  /-- The number of digits before the decimal point; zero or negative below one tenth. -/
  point : Int
deriving DecidableEq, Inhabited

/-- Which of two equally near decimals is taken. -/
inductive Tie where
  | up
  /-- The one whose last digit is even. -/
  | even
deriving DecidableEq

/-- Whether the smaller of two equally near decimals is taken. -/
def Tie.takesSmaller (tie : Tie) (smaller : Nat) : Bool :=
  match tie with
  | .up => false
  | .even => smaller % 2 == 0

/-- Whole numbers proportional to a magnitude, to the ends of its interval, and to a grid step. -/
structure GridView where
  /-- The magnitude. -/
  middle : Nat
  /-- The lower end of the numbers that round to the magnitude. -/
  low : Nat
  /-- The upper end of the numbers that round to the magnitude. -/
  high : Nat
  /-- The distance between two points of the grid. -/
  step : Nat

/-- A magnitude and the numbers that round to it, over the grid of step `10 ^ power`. -/
def gridView (mantissa : Nat) (exponent power : Int) : GridView :=
  let scale := Nat.pow 2 (exponent - 2).toNat * Nat.pow 10 (-power).toNat
  let below :=
    if mantissa = Nat.pow 2 52 ∧ leastExponent < exponent then 1 else 2
  {
    middle := 4 * mantissa * scale
    low := (4 * mantissa - below) * scale
    high := (4 * mantissa + 2) * scale
    step := Nat.pow 10 power.toNat * Nat.pow 2 (2 - exponent).toNat
  }

/-- Whether a grid point rounds to the magnitude; the ends do when the mantissa is even. -/
def GridView.accepts
    (view : GridView)
    (even : Bool)
    (count : Nat) :
    Bool :=
  let point := count * view.step
  if even then
    view.low ≤ point && point ≤ view.high
  else
    view.low < point && point < view.high

/-- The grid point nearest to the magnitude among its two neighbours that round to it. -/
def GridView.nearest?
    (view : GridView)
    (tie : Tie)
    (even : Bool) :
    Option Nat :=
  let below := view.middle / view.step
  let above := below + 1
  match view.accepts even below, view.accepts even above with
  | true, true =>
      let toBelow := view.middle - below * view.step
      let toAbove := above * view.step - view.middle
      if toBelow < toAbove || (toBelow == toAbove && tie.takesSmaller below) then
        some below
      else
        some above
  | true, false => some below
  | false, true => some above
  | false, false => none

/-- Whether a magnitude is at least `10 ^ power`. -/
def reachesPower (mantissa : Nat) (exponent power : Int) : Bool :=
  Nat.pow 10 power.toNat * Nat.pow 2 (-exponent).toNat ≤
    mantissa * Nat.pow 2 exponent.toNat * Nat.pow 10 (-power).toNat

/-- The number of digits before the decimal point of a magnitude that is not zero. -/
def decimalPoint (mantissa : Nat) (exponent : Int) : Int :=
  let estimate := ((mantissa.log2 : Int) + exponent) * 30103 / 100000 - 2
  estimate +
    ((List.range 6).countP fun offset : Nat =>
      reachesPower mantissa exponent (estimate + offset))

/-- The digits of a whole number times `10 ^ power`, without zeros at their end. -/
def Digits.ofNat (number : Nat) (power : Int) : Digits :=
  let digits := Nat.toDigits 10 number
  {
    digits := (digits.reverse.dropWhile (· == '0')).reverse
    point := power + digits.length
  }

/-- The shortest digits of a magnitude. -/
def shortest (tie : Tie) (mantissa : Nat) (exponent : Int) : Digits :=
  if mantissa = 0 then
    ⟨['0'], 1⟩
  else
    let point := decimalPoint mantissa exponent
    let attempt (count : Nat) : Option Digits :=
      let power := point - (count + 1)
      (gridView mantissa exponent power).nearest? tie (mantissa % 2 == 0)
        |>.map (Digits.ofNat · power)
    ((List.range 17).findSome? attempt).getD ⟨['0'], 1⟩

/-- Digits written without an exponent; whole numbers end in `tail`. -/
def Digits.positional (number : Digits) (tail : List Char) : List Char :=
  if number.point ≤ 0 then
    ['0', '.'] ++ List.replicate (-number.point).toNat '0' ++ number.digits
  else
    let before := number.point.toNat
    if number.digits.length ≤ before then
      number.digits ++ List.replicate (before - number.digits.length) '0' ++ tail
    else
      number.digits.take before ++ ['.'] ++ number.digits.drop before

/-- Digits written as one digit, a fraction and a signed exponent. -/
def Digits.scientific (number : Digits) : List Char :=
  let fraction := number.digits.drop 1
  let power := number.point - 1
  number.digits.take 1 ++
    (if fraction.isEmpty then [] else '.' :: fraction) ++
    ['e', if power < 0 then '-' else '+'] ++
    Nat.toDigits 10 power.natAbs

/-- The sign of a double as it is written. -/
def Binary64.sign (number : Binary64) : List Char :=
  if number.negative then ['-'] else []

/-- A double without an exponent; whole numbers have no point. -/
def Binary64.positional (number : Binary64) : String :=
  String.ofList <|
    number.sign ++ (shortest .up number.mantissa number.exponent).positional []

/--
A double with a point or an exponent: positional between `10 ^ -5` and
`10 ^ 16`, scientific outside of these bounds.
-/
def Binary64.compact (number : Binary64) : String :=
  let digits := shortest .even number.mantissa number.exponent
  String.ofList <|
    number.sign ++
      if -5 < digits.point ∧ digits.point ≤ 16 then
        digits.positional ['.', '0']
      else
        digits.scientific

/-- The smallest double needs one digit. -/
example : shortest .even 1 (-1074) = ⟨['5'], -323⟩ := by decide +kernel

/-- A double that no short decimal reads back as needs seventeen digits. -/
example :
    shortest .even 0x13333333333334 (-54) =
      ⟨"30000000000000004".toList, 0⟩ := by decide +kernel

/-- Two decimals of sixteen digits are equally near to a double that ends in one quarter. -/
example :
    (shortest .up 4503599627370497 (-2)).digits = "1125899906842624.3".toList.filter (· ≠ '.') ∧
      (shortest .even 4503599627370497 (-2)).digits =
        "1125899906842624.2".toList.filter (· ≠ '.') := by decide +kernel

end LogRows.Decimal
