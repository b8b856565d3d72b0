import LogRows.Condition.Glob
import LogRows.Row
import LogRows.Text.Replace

/-!
# Conditions on the fields of a row

A `Condition` is a boolean combination of field checks.  A check compares the
plain text of a field with alternatives, and one alternative that fits is
enough.  `equal` and `contains` look at one named field.  `wildcard` takes a
star pattern for the field and one for each alternative; an alternative written
with a leading `!` fits when its pattern does not.
-/

namespace LogRows

/-- One alternative of a wildcard check. -/
structure GlobAlternative where
  pattern : String
  /-- Whether the alternative fits exactly when its pattern does not. -/
  negated : Bool
deriving DecidableEq

namespace GlobAlternative

/-- The alternative written as a text; one leading `!` negates it. -/
def ofText (text : String) : GlobAlternative :=
  match text.toList with
  | '!' :: pattern => ⟨String.ofList pattern, true⟩
  | _ => ⟨text, false⟩

/-- Whether a value fits the alternative. -/
def fits (alternative : GlobAlternative) (value : String) : Bool :=
  Glob.fits alternative.pattern value != alternative.negated

end GlobAlternative

/-- The alternatives of a value, which are separated by `|`. -/
def alternatives (value : String) : List String :=
  (value.toList.splitOn '|').map String.ofList

/-- A boolean combination of field checks. -/
inductive Condition where
  /-- Accepts every row. -/
  | all
  /-- The field is present and its text is one of the values. -/
  | equal (field : String) (values : List String)
  /-- The field is present and its text holds one of the parts. -/
  | contains (field : String) (parts : List String)
  /-- Some field that fits the pattern has a text that fits an alternative. -/
  | wildcard (field : String) (choices : List GlobAlternative)
  | not (operand : Condition)
  | and (left right : Condition)
  | or (left right : Condition)
deriving DecidableEq, Inhabited

namespace Condition

/-- The check that a field is one of the `|`-separated values. -/
def equalTo (field value : String) : Condition :=
  equal field (alternatives value)

/-- The check that a field holds one of the `|`-separated parts. -/
def containing (field value : String) : Condition :=
  contains field (alternatives value)

/-- The check of a field pattern against the `|`-separated alternatives. -/
def fitting (field value : String) : Condition :=
  wildcard field ((alternatives value).map GlobAlternative.ofText)

/-- Whether the fields of a row meet a condition. -/
def holds (fields : Fields) : Condition → Bool
  | all => true
  | equal field values =>
      (fields.get? field).any fun value => values.contains value.plainText
  | contains field parts =>
      (fields.get? field).any fun value =>
        parts.any fun part => Text.occursIn part.toList value.plainText.toList
  | wildcard field choices =>
      let accepts (value : Json.Value) : Bool :=
        choices.any (·.fits value.plainText)
      if field.toList.contains '*' then
        fields.entries.any fun (key, value) => Glob.fits field key && accepts value
      else
        (fields.get? field).any accepts
  | not operand => !operand.holds fields
  | and left right => left.holds fields && right.holds fields
  | or left right => left.holds fields || right.holds fields

@[simp]
theorem holds_all (fields : Fields) :
    holds fields all = true :=
  rfl

@[simp]
theorem holds_not (fields : Fields) (operand : Condition) :
    holds fields (not operand) = !operand.holds fields :=
  rfl

@[simp]
theorem holds_and (fields : Fields) (left right : Condition) :
    holds fields (and left right) = (left.holds fields && right.holds fields) :=
  rfl

@[simp]
theorem holds_or (fields : Fields) (left right : Condition) :
    holds fields (or left right) = (left.holds fields || right.holds fields) :=
  rfl

end Condition

end LogRows
