/-!
# Strings and keys of a TOML document

Readers take the characters that are left and return what they read with the
characters behind it, or nothing when the text is not what they are for.  There
are four kinds of strings: with escapes or verbatim, on one line or on many.
A newline inside a string of many lines is a line feed, however it is written.
-/

namespace LogRows.Toml

/-- Whether a character is a space or a tab. -/
def isSpace (character : Char) : Bool :=
  character == ' ' || character == '\t'

/-- Whether a character can stand inside one line: no control character but the tab. -/
def isLineText (character : Char) : Bool :=
  character == '\t' || (0x20 ≤ character.toNat && character.toNat != 0x7F)

/-- The text behind its spaces and tabs. -/
def skipSpaces (text : List Char) : List Char :=
  text.dropWhile isSpace

/-- The text behind a newline. -/
def skipNewline? : List Char → Option (List Char)
  | '\n' :: rest => some rest
  | '\r' :: '\n' :: rest => some rest
  | _ => none

/-- The text behind a comment, if one begins here. -/
def skipComment : List Char → List Char
  | '#' :: rest => rest.dropWhile isLineText
  | text => text

/-- The text behind the rest of a line that holds no more than a comment. -/
def skipLineEnd? (text : List Char) : Option (List Char) :=
  match skipComment (skipSpaces text) with
  | [] => some []
  | rest => skipNewline? rest

/-- Skip spaces and newlines, at most `fuel` of them. -/
def skipSpacesAndNewlines : (fuel : Nat) → List Char → List Char
  | 0, text => text
  | fuel + 1, text =>
      match text with
      | [] => []
      | character :: rest =>
          if isSpace character then
            skipSpacesAndNewlines fuel rest
          else
            match skipNewline? text with
            | some rest => skipSpacesAndNewlines fuel rest
            | none => text

/-- Skip spaces, newlines and comments, at most `fuel` of them. -/
def skipAllBlanks : (fuel : Nat) → List Char → List Char
  | 0, text => text
  | fuel + 1, text =>
      match text with
      | [] => []
      | character :: rest =>
          if isSpace character then
            skipAllBlanks fuel rest
          else if character = '#' then
            skipAllBlanks fuel (skipComment text)
          else
            match skipNewline? text with
            | some rest => skipAllBlanks fuel rest
            | none => text

/-- The value of a hexadecimal digit. -/
def hexDigit? (digit : Char) : Option Nat :=
  if '0' ≤ digit ∧ digit ≤ '9' then
    some (digit.toNat - '0'.toNat)
  else if 'a' ≤ digit ∧ digit ≤ 'f' then
    some (digit.toNat - 'a'.toNat + 10)
  else if 'A' ≤ digit ∧ digit ≤ 'F' then
    some (digit.toNat - 'A'.toNat + 10)
  else
    none

/-- Read a code point of a fixed number of hexadecimal digits. -/
def readCodePoint (value : Nat) : (digits : Nat) → List Char → Option (Char × List Char)
  | 0, text =>
      if value.isValidChar then some (Char.ofNat value, text) else none
  | digits + 1, digit :: rest => do
      readCodePoint (value * 16 + (← hexDigit? digit)) digits rest
  | _ + 1, [] => none

/-- Read an escape, from behind its backslash. -/
def readEscape : List Char → Option (Char × List Char)
  | 'b' :: rest => some ('\x08', rest)
  | 't' :: rest => some ('\t', rest)
  | 'n' :: rest => some ('\n', rest)
  | 'f' :: rest => some ('\x0c', rest)
  | 'r' :: rest => some ('\r', rest)
  | '\"' :: rest => some ('\"', rest)
  | '\\' :: rest => some ('\\', rest)
  | 'u' :: rest => readCodePoint 0 4 rest
  | 'U' :: rest => readCodePoint 0 8 rest
  | _ => none

/-- Read a string with escapes, from behind its quote; `taken` comes last character first. -/
def readEscaped : (fuel : Nat) → (taken : List Char) → List Char →
    Option (List Char × List Char)
  | 0, _, _ => none
  | fuel + 1, taken, text =>
      match text with
      | [] => none
      | '\"' :: rest => some (taken.reverse, rest)
      | '\\' :: rest => do
          let (character, rest) ← readEscape rest
          readEscaped fuel (character :: taken) rest
      | character :: rest =>
          if isLineText character then
            readEscaped fuel (character :: taken) rest
          else
            none

/-- Read a verbatim string, from behind its quote. -/
def readVerbatim (text : List Char) : Option (List Char × List Char) :=
  let body := text.takeWhile fun character => character != '\x27' && isLineText character
  match text.drop body.length with
  | '\x27' :: rest => some (body, rest)
  | _ => none

/-- The text behind the newline that may follow an opening mark of three quotes. -/
def skipFirstNewline (text : List Char) : List Char :=
  (skipNewline? text).getD text

/-- The number of quotes that come next. -/
def quoteRun (quote : Char) (text : List Char) : Nat :=
  (text.takeWhile (· == quote)).length

/--
Read a string of many lines, from behind its opening mark: up to two quotes may
stand anywhere, also right before the closing mark.  In a string with escapes a
backslash at the end of a line joins it to the next text.
-/
def readManyLines (quote : Char) (escapes : Bool) :
    (fuel : Nat) → (taken : List Char) → List Char → Option (List Char × List Char)
  | 0, _, _ => none
  | fuel + 1, taken, text =>
      match text with
      | [] => none
      | character :: rest =>
          if character = quote then
            let run := quoteRun quote text
            if 3 ≤ run then
              let inside := min (run - 3) 2
              some (taken.reverse ++ List.replicate inside quote, text.drop (inside + 3))
            else
              readManyLines quote escapes fuel (quote :: taken) rest
          else if escapes && character == '\\' then
            match skipNewline? (skipSpaces rest) with
            | some next =>
                readManyLines quote escapes fuel taken
                  (skipSpacesAndNewlines next.length next)
            | none => do
                let (escaped, rest) ← readEscape rest
                readManyLines quote escapes fuel (escaped :: taken) rest
          else if isLineText character then
            readManyLines quote escapes fuel (character :: taken) rest
          else
            match skipNewline? text with
            | some rest => readManyLines quote escapes fuel ('\n' :: taken) rest
            | none => none

/-- Read a string of any kind. -/
def readString? (text : List Char) : Option (String × List Char) :=
  let result :=
    match text with
    | '\"' :: '\"' :: '\"' :: rest =>
        readManyLines '\"' true (rest.length + 1) [] (skipFirstNewline rest)
    | '\x27' :: '\x27' :: '\x27' :: rest =>
        readManyLines '\x27' false (rest.length + 1) [] (skipFirstNewline rest)
    | '\"' :: rest => readEscaped (rest.length + 1) [] rest
    | '\x27' :: rest => readVerbatim rest
    | _ => none
  result.map fun (characters, rest) => (String.ofList characters, rest)

/-- Whether a character can stand in a key without quotes. -/
def isBareKey (character : Char) : Bool :=
  character.isAlphanum || character == '_' || character == '-'

/-- Read one key, quoted on one line or bare. -/
def readSimpleKey? : List Char → Option (String × List Char)
  | '\"' :: rest =>
      (readEscaped (rest.length + 1) [] rest).map
        fun (characters, rest) => (String.ofList characters, rest)
  | '\x27' :: rest =>
      (readVerbatim rest).map fun (characters, rest) => (String.ofList characters, rest)
  | text =>
      let word := text.takeWhile isBareKey
      if word.isEmpty then
        none
      else
        some (String.ofList word, text.drop word.length)

/-- The greatest number of parts of a dotted key. -/
def maxKeyParts : Nat :=
  79

/-- Read the parts of a dotted key, with the spaces around them, at most `parts` of them. -/
def readKey? : (parts : Nat) → List Char → Option (List String × List Char)
  | 0, _ => none
  | parts + 1, text => do
      let (part, rest) ← readSimpleKey? (skipSpaces text)
      match skipSpaces rest with
      | '.' :: rest => do
          let (more, rest) ← readKey? parts rest
          some (part :: more, rest)
      | rest => some ([part], rest)

end LogRows.Toml
