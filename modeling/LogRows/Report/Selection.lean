import LogRows.Condition.Glob
import LogRows.Row
import LogRows.Text.Blank

/-!
# Which fields a report shows

A field list names the fields of a report: names or star patterns, in the order
in which the fields are to be shown.  An entry that starts with `!` takes
fields out instead, wherever it stands in the list.  Without any other entry
all fields are shown.
-/

namespace LogRows.Report

/-- The fields that a report shows and those that it highlights. -/
structure Selection where
  /-- Patterns of the fields to show, in order, and `!` patterns of those not to show. -/
  shown : List String
  /-- Patterns of the fields to highlight. -/
  accented : List String
deriving DecidableEq

/-- All fields are shown, and those that say most are highlighted. -/
def Selection.default : Selection :=
  ⟨[], ["message", "module", "request_system"]⟩

instance : Inhabited Selection :=
  ⟨.default⟩

/-- The text without the blanks at its ends. -/
def trimmed (text : List Char) : String :=
  String.ofList (Text.trim text)

/-- The entries of a comma-separated list; an empty list and a lone `*` select nothing. -/
def parseFieldList (list : String) : Option (List String) :=
  let content := Text.trim list.toList
  if content = [] || content = ['*'] then
    none
  else
    some (((content.splitOn ',').map trimmed).filter (· ≠ ""))

/-- The pattern of an entry that takes fields out. -/
def exclusion? (entry : String) : Option String :=
  match entry.toList with
  | '!' :: pattern => some (String.ofList pattern)
  | _ => none

/-- The patterns of the fields to show. -/
def Selection.inclusions (selection : Selection) : List String :=
  selection.shown.filter fun entry => (exclusion? entry).isNone

/-- The patterns of the fields not to show. -/
def Selection.exclusions (selection : Selection) : List String :=
  selection.shown.filterMap exclusion?

/-- The keys that fit some pattern: those of the first pattern first, none twice. -/
def pickKeys (keys : List String) (patterns : List String) : List String :=
  patterns.foldl
    (fun picked pattern =>
      picked ++ keys.filter fun key => Glob.fits pattern key && !picked.contains key)
    []

/-- The names of the fields to show of a row, in order. -/
def Selection.select (selection : Selection) (fields : Fields) : List String :=
  let included :=
    if selection.inclusions.isEmpty then
      fields.keys
    else
      pickKeys fields.keys selection.inclusions
  included.filter fun key => !selection.exclusions.any (Glob.fits · key)

/-- Whether a field is highlighted. -/
def Selection.accents (selection : Selection) (field : String) : Bool :=
  selection.accented.any (Glob.fits · field)

end LogRows.Report
