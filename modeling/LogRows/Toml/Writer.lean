import LogRows.SortedMap

/-!
# Writing strings and keys of a TOML document

A string is written in the first of several forms that shows it best: plain on
one line, verbatim on one line, on many lines, or with escapes.  A key is bare
where it can be, and else quoted on one line.
-/

namespace LogRows.Toml

/-- The length of the longest run of a character. -/
def longestRun (character : Char) : (current longest : Nat) → List Char → Nat
  | _, longest, [] => longest
  | current, longest, next :: rest =>
      if next = character then
        longestRun character (current + 1) (max longest (current + 1)) rest
      else
        longestRun character 0 longest rest

/-- Whether a character is a control character, which a string with escapes escapes. -/
def isControl (character : Char) : Bool :=
  character.toNat < 0x20 || character.toNat == 0x7F

/-- Whether a character can stand in no verbatim line: a control character but the tab. -/
def needsEscape (character : Char) : Bool :=
  isControl character && character != '\t'

/-- A code as four upper-case hexadecimal digits. -/
def fourHexDigits (code : Nat) : List Char :=
  let digits := (Nat.toDigits 16 code).map Char.toUpper
  List.replicate (4 - digits.length) '0' ++ digits

/-- The escape of a control character. -/
def controlEscape (character : Char) : List Char :=
  if character = '\x08' then
    ['\\', 'b']
  else if character = '\t' then
    ['\\', 't']
  else if character = '\n' then
    ['\\', 'n']
  else if character = '\x0c' then
    ['\\', 'f']
  else if character = '\r' then
    ['\\', 'r']
  else
    ['\\', 'u'] ++ fourHexDigits character.toNat

/--
The text between quotes with its escapes: `allowed` quotes in a row and, on many
lines, the newline need none.  `run` counts the quotes just written.
-/
def escapeText (manyLines : Bool) (allowed : Nat) : (run : Nat) → List Char → List Char
  | _, [] => []
  | run, character :: rest =>
      if character = '\"' then
        if run < allowed then
          '\"' :: escapeText manyLines allowed (run + 1) rest
        else
          ['\\', '\"'] ++ escapeText manyLines allowed 0 rest
      else if character = '\\' then
        ['\\', '\\'] ++ escapeText manyLines allowed 0 rest
      else if manyLines && character == '\n' then
        '\n' :: escapeText manyLines allowed 0 rest
      else if isControl character then
        controlEscape character ++ escapeText manyLines allowed 0 rest
      else
        character :: escapeText manyLines allowed 0 rest

/-- A mark of three quotes. -/
def threeQuotes (quote : Char) : List Char :=
  [quote, quote, quote]

/-- A string with escapes on one line. -/
def escapedString (text : List Char) : List Char :=
  ['\"'] ++ escapeText false 0 0 text ++ ['\"']

/-- A verbatim string on one line. -/
def verbatimString (text : List Char) : List Char :=
  ['\x27'] ++ text ++ ['\x27']

/-- A string between marks of three quotes; text with newlines begins on a line of its own. -/
def manyLineString (quote : Char) (text body : List Char) : List Char :=
  threeQuotes quote ++ (if text.contains '\n' then ['\n'] else []) ++ body ++
    threeQuotes quote

/-- The form of a string value. -/
def stringText (value : String) : List Char :=
  let text := value.toList
  let newline := text.contains '\n'
  let escapes := text.any fun character => needsEscape character && character != '\n'
  let backslash := text.contains '\\'
  let doubles := longestRun '\"' 0 0 text
  let singles := longestRun '\x27' 0 0 text
  if !escapes && !backslash && doubles == 0 && !newline then
    escapedString text
  else if !escapes && singles == 0 && !newline then
    verbatimString text
  else if !escapes && !backslash && doubles ≤ 2 then
    manyLineString '\"' text (escapeText true 2 0 text)
  else if !escapes && singles ≤ 2 then
    manyLineString '\x27' text text
  else if newline then
    manyLineString '\"' text (escapeText true 2 0 text)
  else
    escapedString text

/-- Whether a character can stand in a bare key. -/
def isBare (character : Char) : Bool :=
  character.isAlphanum || character == '_' || character == '-'

/-- The form of a key. -/
def keyText (key : String) : List Char :=
  let text := key.toList
  if !text.isEmpty && text.all isBare then
    text
  else if text.all fun character =>
      !needsEscape character && character != '\"' && character != '\\' then
    escapedString text
  else if text.all fun character => !needsEscape character && character != '\x27' then
    verbatimString text
  else
    escapedString text

end LogRows.Toml
