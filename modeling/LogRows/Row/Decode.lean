import LogRows.Json.Reader
import LogRows.Row
import LogRows.Text.Blank

/-!
# Rows from lines

A line of bytes is trimmed and read as an object.  A line of blanks stands for
no row at all, and a line that is not an object for a failed row, so every line
that holds anything leaves a trace.
-/

namespace LogRows.Row

/-- The row of a line, if it holds more than blanks. -/
def ofBytes? (line : List UInt8) : Option Row :=
  let content := Text.trimBytes line
  if content.isEmpty then
    none
  else
    match Json.readObject content with
    | .ok fields => some (.data fields)
    | .error fault => some (.failed (.decode fault.message))

end LogRows.Row
