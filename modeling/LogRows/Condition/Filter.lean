import LogRows.Condition.Parse

/-!
# Filters

A `Filter` is a compiled condition text.  An empty text and a lone `*` accept
every row as it is.  Every other text is trimmed and put in lower case as a
whole before it is read, and rows are put in lower case before they are looked
at, so that case never matters.
-/

namespace LogRows

/-- A condition, and whether it looks at rows in lower case. -/
structure Filter where
  condition : Condition
  ignoresCase : Bool
deriving DecidableEq

namespace Filter

/-- The filter that accepts every row. -/
def all : Filter :=
  ⟨.all, false⟩

instance : Inhabited Filter :=
  ⟨all⟩

/-- Whether a filter accepts every row without looking at it. -/
def isAll (filter : Filter) : Bool :=
  filter.condition = .all

/-- The text that is read for a condition: trimmed, and in lower case. -/
def cleaned (condition : String) : String :=
  Text.lowercase (String.ofList (Text.trim condition.toList))

/-- Compile a condition text. -/
def compile (condition : String) : Except SyntaxError Filter :=
  let text := cleaned condition
  if text = "" || text = "*" then
    .ok all
  else do
    let tokens ← Token.scan text
    let tree ← Condition.ofTokens tokens text.utf8ByteSize
    .ok ⟨tree, true⟩

/-- Two outcomes of compiling are compared by their filters or by their faults. -/
instance : DecidableEq (Except SyntaxError Filter)
  | .ok filter, .ok other => decidable_of_iff (filter = other) (by rw [Except.ok.injEq])
  | .error fault, .error other => decidable_of_iff (fault = other) (by rw [Except.error.injEq])
  | .ok _, .error _ => isFalse nofun
  | .error _, .ok _ => isFalse nofun

/-- Whether a filter accepts a row; of a failed row it sees no fields. -/
def accepts (filter : Filter) (row : Row) : Bool :=
  filter.condition.holds <|
    if filter.ignoresCase then row.fields.lowercase else row.fields

@[simp]
theorem accepts_all (row : Row) :
    all.accepts row = true :=
  rfl

end Filter

end LogRows
