import LogRows.Report.Selection
import LogRows.Settings

/-!
# What to watch and how to show it

Four flags say which rows are watched and how they are shown: a file, a
condition, the fields to show and those to highlight.  Together they make a
`View`.  A template is a saved view: `ofTemplate_template` says that nothing is
lost by saving one.
-/

namespace LogRows

/-- The flags that say what is watched and how it is shown. -/
structure View where
  file? : Option String
  condition? : Option String
  output? : Option String
  accent? : Option String
deriving DecidableEq

namespace View

/-- The view of which nothing is set. -/
def empty : View :=
  ⟨none, none, none, none⟩

instance : Inhabited View :=
  ⟨empty⟩

/-- The flags of a template that belong to a view. -/
def ofTemplate (template : Template) : View :=
  ⟨template.get? "f", template.get? "c", template.get? "o", template.get? "a"⟩

/-- Set a flag of a template, if it has a value. -/
def setFlag (flag : String) (value? : Option String) (template : Template) : Template :=
  match value? with
  | some value => template.insert flag value
  | none => template

/-- The template that holds the flags that are set. -/
def template (view : View) : Template :=
  setFlag "f" view.file? <|
    setFlag "c" view.condition? <|
      setFlag "o" view.output? <|
        setFlag "a" view.accent? .empty

/-- The view with the flags of another one where it sets none itself. -/
def orElse (view other : View) : View :=
  ⟨view.file?.or other.file?, view.condition?.or other.condition?,
    view.output?.or other.output?, view.accent?.or other.accent?⟩

/-- The condition text; without one every row is shown. -/
def condition (view : View) : String :=
  view.condition?.getD ""

/-- The fields to show and to highlight; a list that selects nothing leaves the default. -/
def selection (view : View) : Report.Selection :=
  ⟨(view.output?.bind Report.parseFieldList).getD Report.Selection.default.shown,
    (view.accent?.bind Report.parseFieldList).getD Report.Selection.default.accented⟩

@[simp]
theorem get?_setFlag
    (flag wanted : String)
    (value? : Option String)
    (template : Template) :
    (setFlag flag value? template).get? wanted =
      if flag = wanted then value?.or (template.get? wanted) else template.get? wanted := by
  cases value? <;> simp [setFlag]

@[simp]
theorem ofTemplate_template (view : View) :
    ofTemplate view.template = view := by
  simp [ofTemplate, template]

end View

end LogRows
