import LogRows.Decimal.Binary64
import LogRows.Toml.Value

/-!
# Numbers and moments of a TOML document

Whole numbers fit 64 bits with sign and may be written to the bases 16, 8 and 2.
Of a number with a fraction or an exponent only its being finite matters here.
A moment is a date, a time, or both with an offset, and is kept in the one form
that its parts are written in.
-/

namespace LogRows.Toml

/-- The value of a digit to a base, if it is one. -/
def digitOfBase? (base : Nat) (digit : Char) : Option Nat :=
  let value? :=
    if '0' ≤ digit ∧ digit ≤ '9' then
      some (digit.toNat - '0'.toNat)
    else if 'a' ≤ digit ∧ digit ≤ 'f' then
      some (digit.toNat - 'a'.toNat + 10)
    else if 'A' ≤ digit ∧ digit ≤ 'F' then
      some (digit.toNat - 'A'.toNat + 10)
    else
      none
  value?.filter (· < base)

/-- The digits that come next, with underscores only between two digits. -/
def readDigits (base : Nat) : (taken : List Nat) → List Char → List Nat × List Char
  | taken, '_' :: digit :: rest =>
      match digitOfBase? base digit with
      | some value =>
          if taken.isEmpty then
            ([], '_' :: digit :: rest)
          else
            readDigits base (value :: taken) rest
      | none => (taken.reverse, '_' :: digit :: rest)
  | taken, digit :: rest =>
      match digitOfBase? base digit with
      | some value => readDigits base (value :: taken) rest
      | none => (taken.reverse, digit :: rest)
  | taken, [] => (taken.reverse, [])

/-- The number of digits to a base. -/
def numberOf (base : Nat) (digits : List Nat) : Nat :=
  digits.foldl (fun number digit => number * base + digit) 0

/-- Take a sign, if there is one; it says whether the number is negative. -/
def readSign : List Char → Bool × List Char
  | '-' :: rest => (true, rest)
  | '+' :: rest => (false, rest)
  | text => (false, text)

/-- Read decimal digits without superfluous zeros in front. -/
def readWhole? (text : List Char) : Option (List Nat × List Char) :=
  match text with
  | '0' :: rest => some ([0], rest)
  | _ =>
      match readDigits 10 [] text with
      | ([], _) => none
      | (digits, rest) => some (digits, rest)

/-- The greatest whole number that fits 64 bits with sign. -/
def greatestInteger : Nat :=
  9223372036854775807

/-- Read a whole number that fits 64 bits with sign. -/
def readInteger? (text : List Char) : Option (Value × List Char) :=
  let unsigned (base : Nat) (text : List Char) : Option (Value × List Char) :=
    match readDigits base [] text with
    | ([], _) => none
    | (digits, rest) =>
        let number := numberOf base digits
        if number ≤ greatestInteger then some (.integer number, rest) else none
  match text with
  | '0' :: 'x' :: rest => unsigned 16 rest
  | '0' :: 'o' :: rest => unsigned 8 rest
  | '0' :: 'b' :: rest => unsigned 2 rest
  | _ => do
      let (negative, rest) := readSign text
      let (digits, rest) ← readWhole? rest
      let number := numberOf 10 digits
      if negative then
        if number ≤ greatestInteger + 1 then some (.integer (-(number : Int)), rest) else none
      else
        if number ≤ greatestInteger then some (.integer number, rest) else none

/-- The least number that rounds to no finite double. -/
def infinityThreshold : Nat :=
  Nat.pow 2 1024 - Nat.pow 2 970

/-- Whether `digits * 10 ^ exponent` rounds to a finite double. -/
def isFinite (digits : Nat) (exponent : Int) : Bool :=
  let length : Int := (Nat.toDigits 10 digits).length
  if digits = 0 || length + exponent < 300 then
    true
  else if 320 < length + exponent then
    false
  else
    digits * Nat.pow 10 exponent.toNat < infinityThreshold * Nat.pow 10 (-exponent).toNat

/-- Read the digits behind a point. -/
def readFraction? : List Char → Option (List Nat × List Char)
  | '.' :: rest =>
      match readDigits 10 [] rest with
      | ([], _) => none
      | (digits, rest) => some (digits, rest)
  | _ => none

/-- Read an exponent with its sign. -/
def readExponent? (text : List Char) : Option (Int × List Char) :=
  let afterMark (rest : List Char) : Option (Int × List Char) :=
    let (negative, rest) := readSign rest
    match readDigits 10 [] rest with
    | ([], _) => none
    | (digits, rest) =>
        let number : Int := numberOf 10 digits
        some (if negative then -number else number, rest)
  match text with
  | 'e' :: rest => afterMark rest
  | 'E' :: rest => afterMark rest
  | _ => none

/-- Read a number with a fraction or an exponent; one that is too large is refused. -/
def readFloat? (text : List Char) : Option (Value × List Char) := do
  let (negative, rest) := readSign text
  match rest with
  | 'i' :: 'n' :: 'f' :: rest => some (.float, rest)
  | 'n' :: 'a' :: 'n' :: rest => some (.float, rest)
  | _ => do
      let (whole, rest) ← readWhole? rest
      let (fraction, exponent, rest) ←
        match readFraction? rest with
        | some (fraction, rest) =>
            match readExponent? rest with
            | some (exponent, rest) => some (fraction, exponent, rest)
            | none => some (fraction, 0, rest)
        | none => (readExponent? rest).map fun (exponent, rest) => ([], exponent, rest)
      let digits := numberOf 10 (whole ++ fraction)
      if negative || isFinite digits (exponent - fraction.length) then
        some (.float, rest)
      else
        none

/-- Read a fixed number of digits whose value lies between two bounds. -/
def readField? (width least greatest : Nat) (text : List Char) : Option (Nat × List Char) :=
  let digits := (text.take width).filterMap (digitOfBase? 10)
  let number := numberOf 10 digits
  if digits.length = width ∧ least ≤ number ∧ number ≤ greatest then
    some (number, text.drop width)
  else
    none

/-- Take one required character. -/
def expect? (character : Char) : List Char → Option (List Char)
  | found :: rest => if found = character then some rest else none
  | [] => none

/-- A number with zeros in front, up to a width. -/
def zeroPadded (width number : Nat) : List Char :=
  let digits := Nat.toDigits 10 number
  List.replicate (width - digits.length) '0' ++ digits

/-- The days of a month. -/
def monthDays (year month : Nat) : Nat :=
  if month = 2 then
    if year % 4 = 0 ∧ (year % 100 ≠ 0 ∨ year % 400 = 0) then 29 else 28
  else if month = 4 ∨ month = 6 ∨ month = 9 ∨ month = 11 then
    30
  else
    31

/-- Read a date. -/
def readDate? (text : List Char) : Option (List Char × List Char) := do
  let (year, rest) ← readField? 4 0 9999 text
  let rest ← expect? '-' rest
  let (month, rest) ← readField? 2 1 12 rest
  let rest ← expect? '-' rest
  let (day, rest) ← readField? 2 1 (monthDays year month) rest
  some (zeroPadded 4 year ++ ['-'] ++ zeroPadded 2 month ++ ['-'] ++ zeroPadded 2 day, rest)

/-- The fraction of a second that nine digits can hold, without zeros at its end. -/
def secondFraction (digits : List Char) : List Char :=
  match ((digits.take 9).reverse.dropWhile (· == '0')).reverse with
  | [] => []
  | kept => '.' :: kept

/-- Read a time of the day. -/
def readTime? (text : List Char) : Option (List Char × List Char) := do
  let (hour, rest) ← readField? 2 0 23 text
  let rest ← expect? ':' rest
  let (minute, rest) ← readField? 2 0 59 rest
  let rest ← expect? ':' rest
  let (second, rest) ← readField? 2 0 60 rest
  let base :=
    zeroPadded 2 hour ++ [':'] ++ zeroPadded 2 minute ++ [':'] ++ zeroPadded 2 second
  match rest with
  | '.' :: after =>
      let digits := after.takeWhile Char.isDigit
      if digits.isEmpty then
        some (base, rest)
      else
        some (base ++ secondFraction digits, after.drop digits.length)
  | _ => some (base, rest)

/-- Read the offset of a time. -/
def readOffset? (text : List Char) : Option (List Char × List Char) :=
  let numeric (sign : Char) (rest : List Char) : Option (List Char × List Char) := do
    let (hour, rest) ← readField? 2 0 23 rest
    let rest ← expect? ':' rest
    let (minute, rest) ← readField? 2 0 59 rest
    let sign := if hour = 0 ∧ minute = 0 then '+' else sign
    some (sign :: zeroPadded 2 hour ++ [':'] ++ zeroPadded 2 minute, rest)
  match text with
  | 'Z' :: rest => some (['Z'], rest)
  | 'z' :: rest => some (['Z'], rest)
  | '+' :: rest => numeric '+' rest
  | '-' :: rest => numeric '-' rest
  | _ => none

/-- Read the time that may follow a date, behind a `T` or one space. -/
def readTimeOfDate? (text : List Char) : Option (List Char × List Char) :=
  match text with
  | mark :: rest =>
      if mark = 'T' ∨ mark = 't' ∨ mark = ' ' then do
        let (time, rest) ← readTime? rest
        match readOffset? rest with
        | some (offset, rest) => some ('T' :: time ++ offset, rest)
        | none => some ('T' :: time, rest)
      else
        none
  | [] => none

/-- Read a date, a time or both. -/
def readMoment? (text : List Char) : Option (Value × List Char) :=
  match readDate? text with
  | some (date, rest) =>
      match readTimeOfDate? rest with
      | some (time, rest) => some (.moment (String.ofList (date ++ time)), rest)
      | none => some (.moment (String.ofList date), rest)
  | none =>
      (readTime? text).map fun (time, rest) => (.moment (String.ofList time), rest)

end LogRows.Toml
