import LogRows.Json.Number
import LogRows.Text.Utf8

/-!
# Reading a line as an object

`readObject` reads one line of bytes as an object and says what is wrong with
it otherwise.  A fault comes with a position, counted in lines from one and in
bytes since the start of the line.  Two positions are in use: `here` is the
count of the bytes taken so far, `at next byte` counts the offending byte too.

Nested values are read by recursion on the number of levels still allowed.  The
pieces of a string and the items inside one pair of brackets are read by
recursion on a bound of their number: every one of them takes a byte, so `bound`
is one more than the bytes of the whole line.
-/

namespace LogRows.Json

/-- What can be wrong with a line. -/
inductive Fault where
  | endInValue
  | endInString
  | endInObject
  | endInList
  | expectedLiteral
  | expectedValue
  | expectedColon
  | expectedListSeparator
  | expectedObjectSeparator
  | keyNotString
  | trailingComma
  | trailingCharacters
  | invalidNumber
  | numberOutOfRange
  | invalidEscape
  | controlCharacter
  | invalidCodePoint
  | loneSurrogate
  | endOfHexEscape
  | tooDeep
  | notAnObject (found : String)

/-- The wording of a fault. -/
def Fault.message : Fault → String
  | .endInValue => "EOF while parsing a value"
  | .endInString => "EOF while parsing a string"
  | .endInObject => "EOF while parsing an object"
  | .endInList => "EOF while parsing a list"
  | .expectedLiteral => "expected ident"
  | .expectedValue => "expected value"
  | .expectedColon => "expected `:`"
  | .expectedListSeparator => "expected `,` or `]`"
  | .expectedObjectSeparator => "expected `,` or `\x7d`"
  | .keyNotString => "key must be a string"
  | .trailingComma => "trailing comma"
  | .trailingCharacters => "trailing characters"
  | .invalidNumber => "invalid number"
  | .numberOutOfRange => "number out of range"
  | .invalidEscape => "invalid escape"
  | .controlCharacter =>
      "control character (\\u0000-\\u001F) found while parsing a string"
  | .invalidCodePoint => "invalid unicode code point"
  | .loneSurrogate => "lone leading surrogate in hex escape"
  | .endOfHexEscape => "unexpected end of hex escape"
  | .tooDeep => "recursion limit exceeded"
  | .notAnObject found => "invalid type: " ++ found ++ ", expected a map"

/-- A fault and where it was found. -/
structure ReadError where
  fault : Fault
  line : Nat
  column : Nat

/-- The wording of a fault with its position. -/
def ReadError.message (error : ReadError) : String :=
  error.fault.message ++ " at line " ++ toString error.line ++
    " column " ++ toString error.column

/-- What is left of the input, and the position reached in it. -/
structure Cursor where
  /-- The bytes not taken yet. -/
  rest : List UInt8
  /-- The line of the next byte, from one. -/
  line : Nat
  /-- The number of bytes taken since the start of the line. -/
  column : Nat

namespace Cursor

/-- The start of an input. -/
def start (bytes : List UInt8) : Cursor :=
  ⟨bytes, 1, 0⟩

/-- The next byte, as the character of its code. -/
def peek? (cursor : Cursor) : Option Char :=
  cursor.rest.head?.map fun byte => Char.ofNat byte.toNat

/-- The cursor after the next byte. -/
def advance (cursor : Cursor) : Cursor :=
  match cursor.rest with
  | [] => cursor
  | byte :: rest =>
      if byte = 0x0A then
        ⟨rest, cursor.line + 1, 0⟩
      else
        ⟨rest, cursor.line, cursor.column + 1⟩

/-- The cursor after a number of bytes. -/
def skip (cursor : Cursor) : Nat → Cursor
  | 0 => cursor
  | count + 1 => cursor.advance.skip count

/-- The cursor after the blanks that may stand between two tokens. -/
def skipBlanks (cursor : Cursor) : Cursor :=
  cursor.skip
    (cursor.rest.takeWhile fun byte =>
      byte = 0x20 || byte = 0x09 || byte = 0x0A || byte = 0x0D).length

/-- The digits that come next, and the cursor after them. -/
def digits (cursor : Cursor) : List Char × Cursor :=
  let run := cursor.rest.takeWhile fun byte => 0x30 ≤ byte && byte ≤ 0x39
  (run.map fun byte => Char.ofNat byte.toNat, cursor.skip run.length)

/-- A fault at the bytes taken so far. -/
def faultHere (cursor : Cursor) (fault : Fault) : ReadError :=
  ⟨fault, cursor.line, cursor.column⟩

/-- A fault of the next byte, which is counted in the position. -/
def faultAtNext (cursor : Cursor) (fault : Fault) : ReadError :=
  cursor.advance.faultHere fault

end Cursor

/-- Read the letters of a literal, from the second on. -/
def readLetters (value : Value) : List Char → Cursor → Except ReadError (Value × Cursor)
  | [], cursor => .ok (value, cursor)
  | letter :: letters, cursor =>
      match cursor.peek? with
      | none => .error (cursor.faultHere .endInValue)
      | some found =>
          if found = letter then
            readLetters value letters cursor.advance
          else
            .error (cursor.advance.faultHere .expectedLiteral)

/-- The double of a number whose digits end at the cursor. -/
def finishDouble
    (negative : Bool)
    (significand : Nat)
    (exponent : Int)
    (cursor : Cursor) :
    Except ReadError (Value × Cursor) :=
  match approximate negative significand exponent with
  | some number => .ok (.double number, cursor)
  | none => .error (cursor.faultHere .numberOutOfRange)

/-- Read an exponent, from the byte after its `e`. -/
def readExponent
    (negative : Bool)
    (significand : Nat)
    (exponent : Int)
    (cursor : Cursor) :
    Except ReadError (Value × Cursor) :=
  let lowers := cursor.peek? == some '-'
  let cursor :=
    if lowers || cursor.peek? == some '+' then cursor.advance else cursor
  let (digits, after) := cursor.digits
  if digits.isEmpty then
    match cursor.peek? with
    | none => .error (cursor.faultHere .endInValue)
    | some _ => .error (cursor.advance.faultHere .invalidNumber)
  else
    match gatherExponent 0 0 digits with
    | .value shift =>
        finishDouble negative significand
          (if lowers then exponent - shift else exponent + shift) after
    | .overflow digitsRead =>
        if significand ≠ 0 && !lowers then
          .error ((cursor.skip digitsRead).faultHere .numberOutOfRange)
        else
          .ok (.double (signedZero negative), after)

/-- Read what may follow the digits of a fraction or of a long whole number. -/
def readDoubleTail
    (negative : Bool)
    (significand : Nat)
    (exponent : Int)
    (cursor : Cursor) :
    Except ReadError (Value × Cursor) :=
  match cursor.peek? with
  | some 'e' | some 'E' =>
      readExponent negative significand exponent cursor.advance
  | _ => finishDouble negative significand exponent cursor

/-- Read a fraction, from the byte after its point. -/
def readFraction
    (negative : Bool)
    (significand : Nat)
    (exponent : Int)
    (cursor : Cursor) :
    Except ReadError (Value × Cursor) :=
  let (digits, after) := cursor.digits
  if digits.isEmpty then
    match cursor.peek? with
    | none => .error (cursor.faultHere .endInValue)
    | some _ => .error (cursor.faultAtNext .invalidNumber)
  else
    let (significand, left) := gatherDigits significand digits
    readDoubleTail negative significand
      (exponent - (digits.length - left : Nat)) after

/-- Read a number, from the byte after its sign. -/
def readNumber (negative : Bool) (cursor : Cursor) : Except ReadError (Value × Cursor) :=
  let (digits, after) := cursor.digits
  match digits with
  | [] =>
      match cursor.peek? with
      | none => .error (cursor.faultHere .endInValue)
      | some _ => .error (cursor.advance.faultHere .invalidNumber)
  | '0' :: _ :: _ => .error (cursor.advance.faultAtNext .invalidNumber)
  | _ =>
      let (significand, left) := gatherDigits 0 digits
      match after.peek? with
      | some '.' => readFraction negative significand left after.advance
      | some 'e' | some 'E' =>
          readExponent negative significand left after.advance
      | _ =>
          if left = 0 then
            .ok (wholeNumber negative significand, after)
          else
            finishDouble negative significand left after

/-- The value of a hexadecimal digit. -/
def hexValue? (digit : Char) : Option Nat :=
  if '0' ≤ digit ∧ digit ≤ '9' then
    some (digit.toNat - '0'.toNat)
  else if 'a' ≤ digit ∧ digit ≤ 'f' then
    some (digit.toNat - 'a'.toNat + 10)
  else if 'A' ≤ digit ∧ digit ≤ 'F' then
    some (digit.toNat - 'A'.toNat + 10)
  else
    none

/-- Read the four digits of a hexadecimal escape. -/
def readFourHex (cursor : Cursor) : Except ReadError (Nat × Cursor) :=
  if (cursor.rest.take 4).length < 4 then
    .error ((cursor.skip cursor.rest.length).faultHere .endInString)
  else
    let after := cursor.skip 4
    let digits :=
      (cursor.rest.take 4).map fun byte => hexValue? (Char.ofNat byte.toNat)
    match digits with
    | [some first, some second, some third, some fourth] =>
        .ok (((first * 16 + second) * 16 + third) * 16 + fourth, after)
    | _ => .error (after.faultHere .invalidEscape)

/-- Take one required byte of the second half of an escaped surrogate pair. -/
def expectInEscape (expected : Char) (cursor : Cursor) : Except ReadError (Unit × Cursor) :=
  match cursor.peek? with
  | none => .error (cursor.faultHere .endInString)
  | some found =>
      if found = expected then
        .ok ((), cursor.advance)
      else
        .error (cursor.advance.faultHere .endOfHexEscape)

/-- Read an escaped code point, from the byte after its `u`. -/
def readCodePoint (cursor : Cursor) : Except ReadError (Char × Cursor) := do
  let (code, cursor) ← readFourHex cursor
  if 0xDC00 ≤ code ∧ code ≤ 0xDFFF then
    .error (cursor.faultHere .loneSurrogate)
  else if 0xD800 ≤ code ∧ code ≤ 0xDBFF then do
    let (_, cursor) ← expectInEscape '\\' cursor
    let (_, cursor) ← expectInEscape 'u' cursor
    let (second, cursor) ← readFourHex cursor
    if 0xDC00 ≤ second ∧ second ≤ 0xDFFF then
      .ok (Char.ofNat ((code - 0xD800) * 0x400 + (second - 0xDC00) + 0x10000), cursor)
    else
      .error (cursor.faultHere .loneSurrogate)
  else
    .ok (Char.ofNat code, cursor)

/-- Read an escape, from the byte after its backslash. -/
def readEscape (cursor : Cursor) : Except ReadError (Char × Cursor) :=
  match cursor.peek? with
  | none => .error (cursor.faultHere .endInString)
  | some '\"' => .ok ('\"', cursor.advance)
  | some '\\' => .ok ('\\', cursor.advance)
  | some '/' => .ok ('/', cursor.advance)
  | some 'b' => .ok ('\x08', cursor.advance)
  | some 'f' => .ok ('\x0c', cursor.advance)
  | some 'n' => .ok ('\n', cursor.advance)
  | some 'r' => .ok ('\r', cursor.advance)
  | some 't' => .ok ('\t', cursor.advance)
  | some 'u' => readCodePoint cursor.advance
  | some _ => .error (cursor.advance.faultHere .invalidEscape)

/-- The UTF-8 bytes of a character, last byte first. -/
def reversedBytes (character : Char) : List UInt8 :=
  (Text.encode (String.singleton character)).reverse

/--
The fault of a text that is not well-formed, whose closing quote has been
taken.  It is counted back from the quote: the bytes from the first ill-formed
one on are counted as they stand in the text, where an escape is shorter than
it is written.
-/
def illFormed (text : List UInt8) (after : Cursor) : ReadError :=
  ⟨.invalidCodePoint, after.line,
    after.column - (text.length - Text.validPrefix text)⟩

/--
Read the rest of a string.  The bytes of its text are held last byte first;
`fuel` bounds the pieces that are left.
-/
def readStringBody :
    (fuel : Nat) → (taken : List UInt8) → Cursor → Except ReadError (String × Cursor)
  | 0, _, cursor => .error (cursor.faultHere .endInString)
  | fuel + 1, taken, cursor =>
      match cursor.rest with
      | [] => .error (cursor.faultHere .endInString)
      | byte :: _ =>
          let after := cursor.advance
          if byte = 0x22 then
            match Text.decode? taken.reverse with
            | some text => .ok (text, after)
            | none => .error (illFormed taken.reverse after)
          else if byte = 0x5C then
            match readEscape after with
            | .error error => .error error
            | .ok (character, after) =>
                readStringBody fuel (reversedBytes character ++ taken) after
          else if byte < 0x20 then
            .error (after.faultHere .controlCharacter)
          else
            readStringBody fuel (byte :: taken) after

/-- Read a string, from the byte after its opening quote. -/
def readString (bound : Nat) (cursor : Cursor) : Except ReadError (String × Cursor) :=
  readStringBody bound [] cursor

/-- Read the items of an array up to its closing bracket. -/
def readItems
    (readValue : Cursor → Except ReadError (Value × Cursor)) :
    (fuel : Nat) → (first : Bool) → (items : List Value) → Cursor →
      Except ReadError (List Value × Cursor)
  | 0, _, _, cursor => .error (cursor.faultHere .endInList)
  | fuel + 1, first, items, cursor => do
      let cursor := cursor.skipBlanks
      match cursor.peek? with
      | none => .error (cursor.faultAtNext .endInList)
      | some ']' => .ok (items.reverse, cursor.advance)
      | some next =>
          let cursor ←
            if first then
              Except.ok cursor
            else if next = ',' then
              let cursor := cursor.advance.skipBlanks
              match cursor.peek? with
              | none => .error (cursor.faultAtNext .endInValue)
              | some ']' => .error (cursor.faultAtNext .trailingComma)
              | some _ => .ok cursor
            else
              .error (cursor.faultAtNext .expectedListSeparator)
          let (item, cursor) ← readValue cursor
          readItems readValue fuel false (item :: items) cursor

/-- Read the fields of an object up to its closing bracket. -/
def readFields
    (bound : Nat)
    (readValue : Cursor → Except ReadError (Value × Cursor)) :
    (fuel : Nat) → (first : Bool) → (fields : SortedMap Value) → Cursor →
      Except ReadError (SortedMap Value × Cursor)
  | 0, _, _, cursor => .error (cursor.faultHere .endInObject)
  | fuel + 1, first, fields, cursor => do
      let cursor := cursor.skipBlanks
      match cursor.peek? with
      | none => .error (cursor.faultAtNext .endInObject)
      | some '\x7d' => .ok (fields, cursor.advance)
      | some next =>
          let cursor ←
            if first then
              if next = '\"' then
                Except.ok cursor
              else
                .error (cursor.faultAtNext .keyNotString)
            else if next = ',' then
              let cursor := cursor.advance.skipBlanks
              match cursor.peek? with
              | some '\"' => .ok cursor
              | some '\x7d' => .error (cursor.faultAtNext .trailingComma)
              | some _ => .error (cursor.faultAtNext .keyNotString)
              | none => .error (cursor.faultAtNext .endInValue)
            else
              .error (cursor.faultAtNext .expectedObjectSeparator)
          let (key, cursor) ← readString bound cursor.advance
          let cursor := cursor.skipBlanks
          match cursor.peek? with
          | some ':' => do
              let (value, cursor) ← readValue cursor.advance
              readFields bound readValue fuel false (fields.insert key value) cursor
          | some _ => .error (cursor.faultAtNext .expectedColon)
          | none => .error (cursor.faultAtNext .endInObject)

/-- Read a literal, a number or a string, if the next byte begins one. -/
def readScalar?
    (bound : Nat)
    (cursor : Cursor) :
    Option (Except ReadError (Value × Cursor)) :=
  match cursor.peek? with
  | some 'n' => some (readLetters .null ['u', 'l', 'l'] cursor.advance)
  | some 't' => some (readLetters (.boolean true) ['r', 'u', 'e'] cursor.advance)
  | some 'f' =>
      some (readLetters (.boolean false) ['a', 'l', 's', 'e'] cursor.advance)
  | some '-' => some (readNumber true cursor.advance)
  | some '\"' =>
      some ((readString bound cursor.advance).map fun (text, after) => (.string text, after))
  | some next =>
      if '0' ≤ next ∧ next ≤ '9' then some (readNumber false cursor) else none
  | none => none

/-- Read a value inside which `levels` further brackets may be nested. -/
def readValue (bound : Nat) :
    (levels : Nat) → Cursor → Except ReadError (Value × Cursor)
  | levels, cursor =>
      let cursor := cursor.skipBlanks
      match readScalar? bound cursor with
      | some reading => reading
      | none =>
          match cursor.peek? with
          | none => .error (cursor.faultAtNext .endInValue)
          | some '[' =>
              match levels with
              | 0 => .error (cursor.faultAtNext .tooDeep)
              | inner + 1 =>
                  (readItems (readValue bound inner) bound true [] cursor.advance).map
                    fun (items, after) => (.array items, after)
          | some '\x7b' =>
              match levels with
              | 0 => .error (cursor.faultAtNext .tooDeep)
              | inner + 1 =>
                  (readFields bound (readValue bound inner) bound true .empty
                    cursor.advance).map
                    fun (fields, after) => (.object fields.entries, after)
          | some _ => .error (cursor.faultAtNext .expectedValue)

/-- The number of brackets that may be nested in each other, the object itself included. -/
def nestingLimit : Nat :=
  127

/-- How a value that is not an object is named. -/
def Value.description : Value → String
  | .null => "null"
  | .boolean truth => "boolean `" ++ (if truth then "true" else "false") ++ "`"
  | .integer number => "integer `" ++ toString number ++ "`"
  | .double number => "floating point `" ++ number.compact ++ "`"
  | .string text => "string " ++ Text.quoted text
  | .array _ => "sequence"
  | .object _ => "map"

/-- Read a whole input as one object. -/
def readObject (bytes : List UInt8) : Except ReadError (SortedMap Value) := do
  let bound := bytes.length + 1
  let cursor := (Cursor.start bytes).skipBlanks
  match cursor.peek? with
  | none => .error (cursor.faultAtNext .endInValue)
  | some '\x7b' =>
      let (fields, cursor) ←
        readFields bound (readValue bound (nestingLimit - 1)) bound true .empty
          cursor.advance
      let cursor := cursor.skipBlanks
      if cursor.rest.isEmpty then
        .ok fields
      else
        .error (cursor.faultAtNext .trailingCharacters)
  | some '[' => .error (cursor.faultHere (.notAnObject (Value.array []).description))
  | some _ =>
      match readScalar? bound cursor with
      | some reading => do
          let (value, cursor) ← reading
          .error (cursor.faultHere (.notAnObject value.description))
      | none => .error (cursor.faultAtNext .expectedValue)

end LogRows.Json
