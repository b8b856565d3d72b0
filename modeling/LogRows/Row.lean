import LogRows.Json.Value
import LogRows.Text.Lowercase

/-!
# Log rows

A `Row` is what one line of a log stands for: the fields of a decoded object,
or the fault that kept the line from becoming one.  Faults travel with the
rows, in their place, so that nothing is lost silently.

Conditions look at the *plain text* of a value, and at a copy of the row in
lower case when they ignore case.  Keys that differ only in case meet in that
copy, where the value of the greatest of them stays.
-/

namespace LogRows

/-- Why a line is not a data row. -/
inductive RowError where
  /-- The line is not an object; the reason names fault and position. -/
  | decode (reason : String)
  /-- The line is longer than the limit. -/
  | overlong
  /-- The source could not be read on. -/
  | read (reason : String)
  /-- The notifications about a file failed. -/
  | watch (reason : String)
deriving DecidableEq

/-- The wording of a row error. -/
def RowError.message : RowError → String
  | .decode reason => "invalid JSON row: " ++ reason
  | .overlong => "line is overlong"
  | .read reason => "read failed: " ++ reason
  | .watch reason => "file notification failed: " ++ reason

/-- The fields of a data row. -/
abbrev Fields :=
  SortedMap Json.Value

/-- One record of a log. -/
inductive Row where
  | data (fields : Fields)
  | failed (error : RowError)

/--
The text of a value that conditions compare and reports show: a string as it
is, a number without exponent, point or trailing zeros where possible, and a
nested value on one line.
-/
def Json.Value.plainText : Json.Value → String
  | .string text => text
  | .integer number => toString number
  | .double number => number.positional
  | .boolean truth => if truth then "true" else "false"
  | .null => "null"
  | nested => nested.compact

/-- Fields with keys and plain texts in lower case. -/
def Fields.lowercase (fields : Fields) : Fields :=
  SortedMap.ofList <|
    fields.entries.map fun (key, value) =>
      (Text.lowercase key, .string (Text.lowercase value.plainText))

namespace Row

/-- The fields of a row; a failed one has none. -/
def fields : Row → Fields
  | data fields => fields
  | failed _ => .empty

/-- The error of a failed row. -/
def error? : Row → Option RowError
  | data _ => none
  | failed error => some error

/-- Whether a row stands for a fault. -/
def isFailed (row : Row) : Bool :=
  row.error?.isSome

@[simp]
theorem fields_data (fields : Fields) :
    (data fields).fields = fields :=
  rfl

@[simp]
theorem fields_failed (error : RowError) :
    (failed error).fields = .empty :=
  rfl

end Row

end LogRows
