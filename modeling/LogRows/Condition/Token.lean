import LogRows.Condition.SyntaxError
import LogRows.Text.Alphanumeric

/-!
# The tokens of a condition

A condition is a sequence of blanks, brackets, field operators, quoted strings
and bare words.  `Token.scan` cuts it at the longest bare words and records for
every token the byte offset of its first character.  A quoted string ends at
the next quote of the same kind and is taken verbatim.  The bare words `and`
and `or` are logic operators.
-/

namespace LogRows

/-- The kinds of tokens. -/
inductive Token.Kind where
  /-- A bare word or a quoted string: a field name or a value. -/
  | string
  /-- One of `=`, `!=`, `~`, `!~` and `:`. -/
  | fieldOperator
  /-- One of the words `and` and `or`. -/
  | logicOperator
  | openBracket
  | closeBracket
deriving DecidableEq

/-- A token of a condition. -/
structure Token where
  kind : Token.Kind
  /-- The text of the token, without the quotes of a quoted string. -/
  lexeme : String
  /-- The byte offset of the first character, the opening quote included. -/
  offset : Nat
deriving DecidableEq

/-- The number of bytes of a text in UTF-8. -/
def Text.byteLength (text : List Char) : Nat :=
  text.foldr (fun character length => character.utf8Size + length) 0

@[simp]
theorem Text.byteLength_nil : Text.byteLength [] = 0 :=
  rfl

@[simp]
theorem Text.byteLength_cons (character : Char) (text : List Char) :
    Text.byteLength (character :: text) = character.utf8Size + Text.byteLength text :=
  rfl

@[simp]
theorem Text.byteLength_append (text rest : List Char) :
    Text.byteLength (text ++ rest) = Text.byteLength text + Text.byteLength rest := by
  induction text with
  | nil => simp
  | cons character text ih =>
      rw [List.cons_append, byteLength_cons, byteLength_cons, ih, Nat.add_assoc]

namespace Token

/-- Whether a character can stand in a bare word. -/
def isBare (character : Char) : Bool :=
  Text.isAlphanumeric character ||
    character == '_' || character == '-' || character == '.' ||
    character == '|' || character == '*'

/-- Whether a character opens and closes quoted strings. -/
def isQuote (character : Char) : Bool :=
  character == '\x27' || character == '\"'

/-- The token of a bare word. -/
def ofWord (word : List Char) (offset : Nat) : Token :=
  let lexeme := String.ofList word
  if lexeme = "and" || lexeme = "or" then
    ⟨.logicOperator, lexeme, offset⟩
  else
    ⟨.string, lexeme, offset⟩

/-- The tokens of a text whose first character has the given offset. -/
def scanFrom (offset : Nat) (text : List Char) : Except SyntaxError (List Token) :=
  match text with
  | [] => .ok []
  | character :: rest =>
      if Text.isBlank character then
        scanFrom (offset + character.utf8Size) rest
      else if character = '(' then do
        let tokens ← scanFrom (offset + 1) rest
        .ok (⟨.openBracket, "(", offset⟩ :: tokens)
      else if character = ')' then do
        let tokens ← scanFrom (offset + 1) rest
        .ok (⟨.closeBracket, ")", offset⟩ :: tokens)
      else if character = '=' ∨ character = '~' ∨ character = ':' then do
        let tokens ← scanFrom (offset + 1) rest
        .ok (⟨.fieldOperator, String.singleton character, offset⟩ :: tokens)
      else if character = '!' then
        match rest with
        | next :: after =>
            if next = '=' ∨ next = '~' then do
              let tokens ← scanFrom (offset + 2) after
              .ok (⟨.fieldOperator, String.ofList ['!', next], offset⟩ :: tokens)
            else
              .error (.unexpectedChar '!' offset)
        | [] => .error (.unexpectedChar '!' offset)
      else if isQuote character then
        let body := rest.takeWhile (· != character)
        match _split : rest.dropWhile (· != character) with
        | _ :: after => do
            let tokens ← scanFrom (offset + Text.byteLength body + 2) after
            .ok (⟨.string, String.ofList body, offset⟩ :: tokens)
        | [] => .error (.unterminatedString offset)
      else if isBare character then do
        let word := character :: rest.takeWhile isBare
        let tokens ← scanFrom (offset + Text.byteLength word) (rest.dropWhile isBare)
        .ok (ofWord word offset :: tokens)
      else
        .error (.unexpectedChar character offset)
termination_by text.length
decreasing_by
  all_goals simp only [List.length_cons]
  any_goals omega
  · have shorter := congrArg List.length _split
    have bounded := (rest.dropWhile_sublist (· != character)).length_le
    simp only [List.length_cons] at shorter
    omega
  · have bounded := (rest.dropWhile_sublist isBare).length_le
    omega

/-- The tokens of a condition, with byte offsets in it. -/
def scan (condition : String) : Except SyntaxError (List Token) :=
  scanFrom 0 condition.toList

end Token

end LogRows
