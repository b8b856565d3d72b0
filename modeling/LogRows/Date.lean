import LogRows.Text.Replace

/-!
# Dates in file names

A file name may hold the placeholder `@today@`, which stands for the date of
the day as year, month and day.  Years have at least four digits; a year before
zero has a minus sign and one after 9999 a plus sign.
-/

namespace LogRows

/-- A date of the Gregorian calendar, extended to all years. -/
structure Date where
  year : Int
  month : Nat
  day : Nat
deriving DecidableEq

namespace Date

/-- Whether a year has 366 days. -/
def isLeapYear (year : Int) : Bool :=
  year % 4 == 0 && (year % 100 != 0 || year % 400 == 0)

/-- The number of days of a month. -/
def daysOfMonth (year : Int) (month : Nat) : Nat :=
  if month = 2 then
    if isLeapYear year then 29 else 28
  else if month = 4 || month = 6 || month = 9 || month = 11 then
    30
  else
    31

/-- The first and the last year that dates are made of. -/
def yearRange : Int × Int :=
  (-262143, 262142)

/-- The date of a year, month and day, if there is one. -/
def ofParts? (year : Int) (month day : Nat) : Option Date :=
  if yearRange.1 ≤ year ∧ year ≤ yearRange.2 ∧
      1 ≤ month ∧ month ≤ 12 ∧ 1 ≤ day ∧ day ≤ daysOfMonth year month then
    some ⟨year, month, day⟩
  else
    none

/-- A number with zeros in front, up to a width. -/
def padded (width number : Nat) : List Char :=
  let digits := Nat.toDigits 10 number
  List.replicate (width - digits.length) '0' ++ digits

/-- The text of a year. -/
def yearText (year : Int) : List Char :=
  (if year < 0 then ['-'] else if 9999 < year then ['+'] else []) ++
    padded 4 year.natAbs

/-- The text of a date. -/
def text (date : Date) : List Char :=
  yearText date.year ++ ['-'] ++ padded 2 date.month ++ ['-'] ++ padded 2 date.day

/-- The date of a day, counted from the first of January 1970. -/
def ofDayNumber (days : Int) : Date :=
  let shifted := days + 719468
  let era := shifted.fdiv 146097
  let dayOfEra := (shifted - era * 146097).toNat
  let yearOfEra :=
    (dayOfEra - dayOfEra / 1460 + dayOfEra / 36524 - dayOfEra / 146096) / 365
  let dayOfYear := dayOfEra - (365 * yearOfEra + yearOfEra / 4 - yearOfEra / 100)
  let shiftedMonth := (5 * dayOfYear + 2) / 153
  let day := dayOfYear - (153 * shiftedMonth + 2) / 5 + 1
  let month := if shiftedMonth < 10 then shiftedMonth + 3 else shiftedMonth - 9
  let year := era * 400 + yearOfEra + (if month ≤ 2 then 1 else 0)
  ⟨year, month, day⟩

example : ofDayNumber 0 = ⟨1970, 1, 1⟩ := by decide

example : ofDayNumber 19782 = ⟨2024, 2, 29⟩ := by decide

end Date

/-- What stands for the date in a file name. -/
def todayPlaceholder : List Char :=
  "@today@".toList

/-- A file name with the date in place of every placeholder; one that holds none stays as it is. -/
def expandToday (path : String) (date : Date) : String :=
  if Text.occursIn todayPlaceholder path.toList then
    String.ofList (Text.replaceAll todayPlaceholder date.text path.toList)
  else
    path

end LogRows
