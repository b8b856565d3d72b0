import LogRows.Condition.Token
import LogRows.Condition.Tree

/-!
# Conditions from tokens

A condition is a chain of terms joined by logic operators, and a term is a
field check or a condition in brackets.  The operators of one bracket level
must all be the same word, for there is no precedence between them, and a chain
groups to the left.  Two limits bound the size of what is accepted: the logic
operators of one level and the levels of brackets.  They also bound the
recursion, so reading needs no other measure.
-/

namespace LogRows

/-- The greatest number of logic operators at one bracket level. -/
def maxChainedOperators : Nat :=
  100

/-- The greatest number of bracket levels. -/
def maxNesting : Nat :=
  100

namespace Condition

/-- The check that a field operator stands for; other texts stand for none. -/
def ofOperator? (operator field value : String) : Option Condition :=
  if operator = "=" then
    some (equalTo field value)
  else if operator = "!=" then
    some (not (equalTo field value))
  else if operator = "~" then
    some (containing field value)
  else if operator = "!~" then
    some (not (containing field value))
  else if operator = ":" then
    some (fitting field value)
  else
    none

/-- Join two conditions; every word but `and` means that one of them is enough. -/
def join (operator : String) (left right : Condition) : Condition :=
  if operator = "and" then and left right else or left right

/-- Read a field check after its field name; `inputEnd` is the offset of the end. -/
def readCheck
    (inputEnd : Nat)
    (field : String) :
    List Token → Except SyntaxError (Condition × List Token)
  | [] => .error (.unexpectedEnd inputEnd .fieldOperator)
  | operator :: rest =>
      if operator.kind ≠ .fieldOperator then
        .error (.unexpectedToken operator.lexeme operator.offset .fieldOperator)
      else
        match rest with
        | [] => .error (.unexpectedEnd inputEnd .fieldValue)
        | value :: rest =>
            if value.kind ≠ .string then
              .error (.unexpectedToken value.lexeme value.offset .fieldValue)
            else
              match ofOperator? operator.lexeme field value.lexeme with
              | some check => .ok (check, rest)
              | none =>
                  .error (.unexpectedToken operator.lexeme operator.offset .fieldOperator)

/--
Read what follows a term at one bracket level: `enclosing` is the offset of the
bracket that opened the level, `operator` the word its operators must be, and
`budget` the number of operators that may still come.
-/
def readChain
    (readTerm : List Token → Except SyntaxError (Condition × List Token))
    (enclosing : Option Nat) :
    (budget : Nat) → (operator : Option String) → Condition → List Token →
      Except SyntaxError (Condition × List Token)
  | _, _, left, [] =>
      match enclosing with
      | some offset => .error (.missingCloseBracket offset)
      | none => .ok (left, [])
  | budget, operator, left, token :: rest =>
      match token.kind with
      | .closeBracket =>
          match enclosing with
          | some _ => .ok (left, rest)
          | none => .error (.unmatchedCloseBracket token.offset)
      | .logicOperator =>
          match operator.filter (· ≠ token.lexeme) with
          | some first => .error (.mixedLogicOperators first token.lexeme token.offset)
          | none =>
              match budget with
              | 0 => .error (.tooManyOperators maxChainedOperators token.offset)
              | budget + 1 => do
                  let (right, rest) ← readTerm rest
                  readChain readTerm enclosing budget (some token.lexeme)
                    (join token.lexeme left right) rest
      | _ => .error (.unexpectedToken token.lexeme token.offset .operatorOrBracket)

/-- Read a term, below which `levels` further brackets may be opened. -/
def readTerm (inputEnd : Nat) :
    (levels : Nat) → List Token → Except SyntaxError (Condition × List Token)
  | _, [] => .error (.unexpectedEnd inputEnd .fieldOrBracket)
  | levels, token :: rest =>
      match token.kind with
      | .string => readCheck inputEnd token.lexeme rest
      | .openBracket =>
          match levels with
          | 0 => .error (.tooDeep maxNesting token.offset)
          | inner + 1 => do
              let (left, rest) ← readTerm inputEnd inner rest
              readChain (readTerm inputEnd inner) (some token.offset)
                maxChainedOperators none left rest
      | _ => .error (.unexpectedToken token.lexeme token.offset .fieldOrBracket)

/-- Read a condition at one bracket level. -/
def readGroup
    (inputEnd levels : Nat)
    (enclosing : Option Nat)
    (tokens : List Token) :
    Except SyntaxError (Condition × List Token) := do
  let (left, rest) ← readTerm inputEnd levels tokens
  readChain (readTerm inputEnd levels) enclosing maxChainedOperators none left rest

/-- The condition that a token sequence stands for. -/
def ofTokens (tokens : List Token) (inputEnd : Nat) : Except SyntaxError Condition :=
  (readGroup inputEnd maxNesting none tokens).map (·.1)

end Condition

end LogRows
