import LogRows.Text.Blank

/-!
# Faults of a condition

Every fault names the byte offset at which a condition stops making sense,
counted in the trimmed condition in lower case.  `pointer` shows the place
with a caret under the condition as it was given.
-/

namespace LogRows

/-- What a condition lacks at some place. -/
inductive Expected where
  | fieldOrBracket
  | fieldOperator
  | fieldValue
  | operatorOrBracket
deriving DecidableEq

/-- The wording of what is lacking. -/
def Expected.message : Expected → String
  | .fieldOrBracket => "field name or open bracket"
  | .fieldOperator => "field operator"
  | .fieldValue => "field value"
  | .operatorOrBracket => "logic operator or close bracket"

/-- Why a condition cannot be compiled. -/
inductive SyntaxError where
  /-- A quote is opened and never closed. -/
  | unterminatedString (offset : Nat)
  /-- A character begins no token. -/
  | unexpectedChar (character : Char) (offset : Nat)
  /-- The condition ends too early. -/
  | unexpectedEnd (offset : Nat) (expected : Expected)
  /-- A token stands where another kind is due. -/
  | unexpectedToken (lexeme : String) (offset : Nat) (expected : Expected)
  /-- The bracket at the offset is never closed. -/
  | missingCloseBracket (offset : Nat)
  /-- A bracket is closed that was never opened. -/
  | unmatchedCloseBracket (offset : Nat)
  /-- Two different logic operators meet at one bracket level. -/
  | mixedLogicOperators (first found : String) (offset : Nat)
  /-- A bracket level holds more logic operators than allowed. -/
  | tooManyOperators (limit offset : Nat)
  /-- Brackets are nested deeper than allowed. -/
  | tooDeep (limit offset : Nat)
deriving DecidableEq

namespace SyntaxError

/-- The byte offset of a fault. -/
def offset : SyntaxError → Nat
  | unterminatedString offset => offset
  | unexpectedChar _ offset => offset
  | unexpectedEnd offset _ => offset
  | unexpectedToken _ offset _ => offset
  | missingCloseBracket offset => offset
  | unmatchedCloseBracket offset => offset
  | mixedLogicOperators _ _ offset => offset
  | tooManyOperators _ offset => offset
  | tooDeep _ offset => offset

/-- The wording of a fault. -/
def message : SyntaxError → String
  | unterminatedString offset =>
      s!"unclosed string value, started at {offset}"
  | unexpectedChar character offset =>
      s!"unexpected character '{character}' at {offset}"
  | unexpectedEnd offset expected =>
      s!"unexpected end of condition at {offset}, expected {expected.message}"
  | unexpectedToken lexeme offset expected =>
      s!"unexpected token '{lexeme}' at {offset}, expected {expected.message}"
  | missingCloseBracket offset =>
      s!"close bracket not found for bracket opened at {offset}"
  | unmatchedCloseBracket offset =>
      s!"close bracket without open bracket at {offset}"
  | mixedLogicOperators first found offset =>
      s!"mixed logic operators without brackets at {offset} " ++
        s!"('{first}' then '{found}'), precedence undefined"
  | tooManyOperators limit offset =>
      s!"more than {limit} logic operators in one group at {offset}"
  | tooDeep limit offset =>
      s!"brackets nested deeper than {limit} at {offset}"

/-- The number of characters that start before a byte offset, the text starting at `position`. -/
def charactersBefore (offset : Nat) : (position : Nat) → List Char → Nat
  | _, [] => 0
  | position, character :: rest =>
      if position < offset then
        charactersBefore offset (position + character.utf8Size) rest + 1
      else
        0

/-- The trimmed condition, and under it a caret in the column of the fault. -/
def pointer (error : SyntaxError) (condition : String) : String :=
  let shown := Text.trim condition.toList
  String.ofList <|
    shown ++ ['\n'] ++
      List.replicate (charactersBefore error.offset 0 shown) ' ' ++ ['^']

end SyntaxError

end LogRows
