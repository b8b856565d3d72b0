import LogRows.Report.Selection
import LogRows.Report.Style
import LogRows.Text.Lowercase

/-!
# The text of a row

A row is written as a block between two dividers.  The head shows its level on
a background that stands for it, and the lines below show the selected fields,
the highlighted ones in brighter colors.  A failed row shows its error instead.
-/

namespace LogRows.Report

/-- The mark at both ends of a block. -/
def divider : String :=
  "**********"

/-- The background of a level. -/
def levelColor (level : String) : Color :=
  match Text.lowercase level with
  | "debug" => .cyan
  | "info" => .green
  | "warn" => .brightYellow
  | "warning" => .brightYellow
  | "error" => .red
  | _ => .magenta

/-- The head of a block: the level of the row, which has to be a string. -/
def header (color : Bool) (row : Row) : String :=
  match row.fields.get? "level" with
  | some (.string level) =>
      Style.paint color ⟨false, some (levelColor level), some .black⟩
        ("  Level: " ++ level ++ "  ")
  | _ => Style.paint color .plain "No level field"

/-- The message about a failed row. -/
def errorLine (color : Bool) (error : RowError) : String :=
  Style.paint color (.colored .red) ("row error: " ++ error.message)

/-- The line of a field. -/
def fieldLine
    (color accented : Bool)
    (field value : String) :
    String :=
  let fieldStyle : Style := ⟨accented, none, some .brightBlue⟩
  let valueStyle := Style.colored (if accented then .brightGreen else .green)
  "   " ++ fieldStyle.paint color field ++ ": " ++ valueStyle.paint color value ++ "\n"

/-- The plain text of a field of a row; a field that is absent has none. -/
def fieldText (fields : Fields) (field : String) : String :=
  ((fields.get? field).map Json.Value.plainText).getD ""

/-- The lines between the head and the closing divider. -/
def body (selection : Selection) (color : Bool) : Row → String
  | .failed error => errorLine color error ++ "\n"
  | .data fields =>
      String.join <|
        (selection.select fields).map fun field =>
          fieldLine color (selection.accents field) field (fieldText fields field)

/-- The block of a row, without a line end behind it. -/
def rowText (selection : Selection) (color : Bool) (row : Row) : String :=
  divider ++ " " ++ header color row ++ " " ++ divider ++ "\n" ++
    body selection color row ++ divider

end LogRows.Report
