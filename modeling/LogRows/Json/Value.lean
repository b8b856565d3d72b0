import LogRows.Decimal.Shortest
import LogRows.SortedMap
import LogRows.Text.Quoted

/-!
# Structured values and their compact text

A `Value` is one decoded value of a log line.  Whole numbers that fit 64 bits
are kept exactly, all other numbers are doubles.  The fields of an object are
in key order.  `compact` writes a value on one line without blanks.
-/

namespace LogRows.Json

open LogRows.Decimal

/-- A decoded value. -/
inductive Value where
  | null
  | boolean (truth : Bool)
  | integer (number : Int)
  | double (number : Binary64)
  | string (text : String)
  | array (items : List Value)
  | object (fields : List (String × Value))
deriving Inhabited

/-- The kinds of values. -/
inductive Kind where
  | null
  | boolean
  | number
  | string
  | array
  | object
deriving DecidableEq

/-- The kind of a value. -/
def Value.kind : Value → Kind
  | .null => .null
  | .boolean _ => .boolean
  | .integer _ => .number
  | .double _ => .number
  | .string _ => .string
  | .array _ => .array
  | .object _ => .object

/-- A code below 256 as two lower-case hexadecimal digits. -/
def twoHexDigits (code : Nat) : List Char :=
  [Nat.digitChar (code / 16), Nat.digitChar (code % 16)]

/-- One character between the quotes of a written string. -/
def escapeChar (character : Char) : List Char :=
  if character = '\"' || character = '\\' then
    ['\\', character]
  else if character = '\x08' then
    ['\\', 'b']
  else if character = '\x0c' then
    ['\\', 'f']
  else if character = '\n' then
    ['\\', 'n']
  else if character = '\r' then
    ['\\', 'r']
  else if character = '\t' then
    ['\\', 't']
  else if character.toNat < 0x20 then
    ['\\', 'u', '0', '0'] ++ twoHexDigits character.toNat
  else
    [character]

/-- A string with its quotes and escapes. -/
def compactString (text : String) : String :=
  String.ofList (['\"'] ++ text.toList.flatMap escapeChar ++ ['\"'])

mutual

/-- A value on one line, without blanks. -/
def Value.compact : Value → String
  | .null => "null"
  | .boolean truth => if truth then "true" else "false"
  | .integer number => toString number
  | .double number => number.compact
  | .string text => compactString text
  | .array items => "[" ++ compactItems true items ++ "]"
  | .object fields => "\x7b" ++ compactFields true fields ++ "\x7d"

/-- The items of an array, a comma before all but the first. -/
def compactItems (first : Bool) : List Value → String
  | [] => ""
  | item :: rest =>
      (if first then "" else ",") ++ item.compact ++ compactItems false rest

/-- The fields of an object, a comma before all but the first. -/
def compactFields (first : Bool) : List (String × Value) → String
  | [] => ""
  | (key, value) :: rest =>
      (if first then "" else ",") ++ compactString key ++ ":" ++ value.compact ++
        compactFields false rest

end

end LogRows.Json
