import LogRows.Toml.Number
import LogRows.Toml.Text

/-!
# Reading a TOML document

`parse?` reads a whole document into its table, or answers nothing when the text
is no TOML document.  Values nest in arrays and inline tables; the levels of
nesting are limited, and reading recurses on the levels still allowed.
-/

namespace LogRows.Toml

/-- The greatest number of arrays and inline tables that are nested in each other. -/
def maxNesting : Nat :=
  79

/-- Read a value that is neither an array nor an inline table. -/
def readScalar? (text : List Char) : Option (Value × List Char) :=
  match text with
  | 't' :: 'r' :: 'u' :: 'e' :: rest => some (.boolean true, rest)
  | 'f' :: 'a' :: 'l' :: 's' :: 'e' :: rest => some (.boolean false, rest)
  | _ =>
      match readString? text with
      | some (string, rest) => some (.string string, rest)
      | none =>
          (readMoment? text).or ((readFloat? text).or (readInteger? text))

/--
Read the items of an array up to its closing bracket; the last comma may stand
alone.  An item takes a character, so `fuel` also bounds the blanks around it.
-/
def readItems? (readValue? : List Char → Option (Value × List Char)) :
    (fuel : Nat) → (items : List Value) → List Char → Option (List Value × List Char)
  | 0, _, _ => none
  | fuel + 1, items, text =>
      match skipAllBlanks fuel text with
      | ']' :: rest => some (items.reverse, rest)
      | text => do
          let (item, rest) ← readValue? text
          match skipAllBlanks fuel rest with
          | ',' :: rest => readItems? readValue? fuel (item :: items) rest
          | ']' :: rest => some ((item :: items).reverse, rest)
          | _ => none

/-- Split the parts of a dotted key into the path and the key itself. -/
def splitKey? (parts : List String) : Option (List String × String) :=
  parts.getLast?.map fun key => (parts.dropLast, key)

/-- Read the keys of an inline table up to its closing bracket. -/
def readInline? (readValue? : List Char → Option (Value × List Char)) :
    (fuel : Nat) → Section → List Char → Option (Section × List Char)
  | 0, _, _ => none
  | fuel + 1, table, text => do
      let (parts, rest) ← readKey? maxKeyParts text
      let (path, key) ← splitKey? parts
      let rest ← expect? '=' rest
      let (value, rest) ← readValue? (skipSpaces rest)
      let table ← table.setKey path key value
      match skipSpaces rest with
      | ',' :: rest => readInline? readValue? fuel table rest
      | '\x7d' :: rest => some (table, rest)
      | _ => none

/-- Read a value inside which `levels` further ones may be nested. -/
def readValue? : (levels : Nat) → List Char → Option (Value × List Char)
  | levels, '[' :: rest =>
      match levels with
      | 0 => none
      | inner + 1 =>
          (readItems? (readValue? inner) (rest.length + 1) [] rest).map
            fun (items, rest) => (.array items, rest)
  | levels, '\x7b' :: rest =>
      match levels with
      | 0 => none
      | inner + 1 =>
          match skipSpaces rest with
          | '\x7d' :: rest => some (.table [], rest)
          | _ =>
              (readInline? (readValue? inner) (rest.length + 1) .opened rest).map
                fun (table, rest) => (.table (finishedEntries table.entries), rest)
  | _, text => readScalar? text

/-- Read a key with its value, up to the end of the line. -/
def readPair? (draft : Draft) (text : List Char) : Option (Draft × List Char) := do
  let (parts, rest) ← readKey? maxKeyParts text
  let (path, key) ← splitKey? parts
  let rest ← expect? '=' rest
  let (value, rest) ← readValue? maxNesting (skipSpaces rest)
  let draft ← draft.setKey path key value
  some (draft, ← skipLineEnd? rest)

/-- Read a header, from behind its first bracket, up to the end of the line. -/
def readHeader? (draft : Draft) (text : List Char) : Option (Draft × List Char) :=
  match text with
  | '[' :: rest => do
      let (path, rest) ← readKey? maxKeyParts rest
      let rest ← expect? ']' (← expect? ']' rest)
      some (← draft.openElement path, ← skipLineEnd? rest)
  | _ => do
      let (path, rest) ← readKey? maxKeyParts text
      let rest ← expect? ']' rest
      some (← draft.openTable path, ← skipLineEnd? rest)

/-- Read the lines of a document; every line takes at least one character. -/
def readLines? : (fuel : Nat) → Draft → List Char → Option Draft
  | 0, _, _ => none
  | fuel + 1, draft, text =>
      match skipSpaces text with
      | [] => some draft
      | '#' :: rest => do
          readLines? fuel draft (← skipLineEnd? ('#' :: rest))
      | '[' :: rest => do
          let (draft, rest) ← readHeader? draft rest
          readLines? fuel draft rest
      | text =>
          match skipNewline? text with
          | some rest => readLines? fuel draft rest
          | none => do
              let (draft, rest) ← readPair? draft text
              readLines? fuel draft rest

/-- The entries of a document; a byte order mark in front is no part of it. -/
def parse? (text : String) : Option (List (String × Value)) := do
  let characters :=
    match text.toList with
    | '\uFEFF' :: rest => rest
    | characters => characters
  let draft ← readLines? (characters.length + 1) .start characters
  let root ← draft.close
  some (finishedEntries root.entries)

end LogRows.Toml
