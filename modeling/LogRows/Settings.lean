import LogRows.SortedMap
import LogRows.Stream.Config

/-!
# Settings and templates

A template is a set of flags that is saved under a name.  Settings are the sizes
of streams together with all saved templates.  Saving a template without flags
removes the name, so no name ever stands for nothing by being saved.

`get?_templates_saveTemplate` says what every name stands for after a save.
-/

namespace LogRows

/-- Flags with their values, as they are saved under a name. -/
abbrev Template :=
  SortedMap String

/-- A flag of a template as it stands on a command line. -/
def Template.describeFlag (flag value : String) : String :=
  "-" ++ flag ++ " \"" ++ value ++ "\""

/-- The flags of a template as they stand on a command line. -/
def Template.describe (template : Template) : String :=
  " ".intercalate (template.entries.map fun entry => describeFlag entry.1 entry.2)

/-- What a settings file holds. -/
structure Settings where
  stream : Stream.Config
  templates : SortedMap Template
deriving DecidableEq

namespace Settings

/-- The settings that hold when there is no file. -/
def default : Settings :=
  ⟨.default, .empty⟩

instance : Inhabited Settings :=
  ⟨default⟩

/-- Save a template under a name; a template without flags removes the name. -/
def saveTemplate
    (settings : Settings)
    (name : String)
    (template : Template) :
    Settings :=
  { settings with
    templates :=
      if template.isEmpty then
        settings.templates.erase name
      else
        settings.templates.insert name template }

@[simp]
theorem get?_templates_saveTemplate
    (settings : Settings)
    (name wanted : String)
    (template : Template) :
    (settings.saveTemplate name template).templates.get? wanted =
      if name = wanted then
        if template.isEmpty then none else some template
      else
        settings.templates.get? wanted := by
  unfold saveTemplate
  by_cases empty : template.isEmpty
  · simp [empty]
  · simp [empty]

end Settings

end LogRows
