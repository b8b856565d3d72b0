import LogRows.Json.Value

/-!
# Numbers from their digits

A number is read into a significand of at most 64 bits and a decimal exponent.
Digits that no longer fit the significand are not rounded in: one before the
point only raises the exponent, one after it is dropped.  A whole number
without point and exponent stays exact when it fits 64 bits.  All others
become doubles by one multiplication or division with a power of ten, each
rounded on its own, so the result need not be the nearest double.
-/

namespace LogRows.Json

open LogRows.Decimal

/-- The largest power of ten that is a finite double. -/
def greatestTenPower : Nat :=
  308

/-- The value of a digit. -/
def digitValue (digit : Char) : Nat :=
  digit.toNat - '0'.toNat

/-- Take digits into a significand while 64 bits hold it; the count of digits left over follows. -/
def gatherDigits (significand : Nat) : List Char → Nat × Nat
  | [] => (significand, 0)
  | digit :: rest =>
      let next := significand * 10 + digitValue digit
      if next < UInt64.size then
        gatherDigits next rest
      else
        (significand, rest.length + 1)

/-- What the digits of an exponent amount to. -/
inductive ExponentDigits where
  | value (exponent : Nat)
  | overflow (digitsRead : Nat)

/-- Take the digits of an exponent up to the first that exceeds 31 bits. -/
def gatherExponent (exponent digitsRead : Nat) : List Char → ExponentDigits
  | [] => .value exponent
  | digit :: rest =>
      let next := exponent * 10 + digitValue digit
      if next < 2147483648 then
        gatherExponent next (digitsRead + 1) rest
      else
        .overflow (digitsRead + 1)

/-- Divide a magnitude by a power of ten, at most `10 ^ 308` at a time. -/
def divideByTens (magnitude : Nat × Int) (power : Nat) : Option (Nat × Int) :=
  if power ≤ greatestTenPower then do
    divide magnitude (← roundNat (Nat.pow 10 power))
  else if magnitude.1 = 0 then
    some magnitude
  else do
    let smaller ← divide magnitude (← roundNat (Nat.pow 10 greatestTenPower))
    divideByTens smaller (power - greatestTenPower)
termination_by power
decreasing_by
  simp only [greatestTenPower] at *
  omega

/-- The double of a significand and a decimal exponent, or `none` when it is too large. -/
def approximate
    (negative : Bool)
    (significand : Nat)
    (exponent : Int) :
    Option Binary64 := do
  let magnitude ← roundNat significand
  let scaled ←
    if exponent < 0 then
      divideByTens magnitude exponent.natAbs
    else if exponent.toNat ≤ greatestTenPower then do
      multiply magnitude (← roundNat (Nat.pow 10 exponent.toNat))
    else if significand = 0 then
      some magnitude
    else
      none
  some ⟨negative, scaled.1, scaled.2⟩

/-- A zero with a sign. -/
def signedZero (negative : Bool) : Binary64 :=
  ⟨negative, 0, leastExponent⟩

/-- A whole number whose significand fits 64 bits; a negative one may not, and `-0` does not. -/
def wholeNumber (negative : Bool) (significand : Nat) : Value :=
  if !negative then
    .integer significand
  else if 0 < significand && significand ≤ 9223372036854775808 then
    .integer (-(significand : Int))
  else
    .double ((approximate true significand 0).getD (signedZero true))

end LogRows.Json
