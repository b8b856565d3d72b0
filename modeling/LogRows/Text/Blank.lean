import LogRows.Text.CodeRanges

/-!
# Blank characters

Two classes of blanks are in use.  `isBlank` is the `White_Space` property of
Unicode, which separates the words of a condition and is trimmed from field
lists.  `isBlankByte` is the narrower class of bytes trimmed from a log line.
-/

namespace LogRows.Text

/-- The code points with the property `White_Space`. -/
def blankRanges : CodeRanges :=
  [
    (0x9, 0xD), (0x20, 0x20), (0x85, 0x85), (0xA0, 0xA0),
    (0x1680, 0x1680), (0x2000, 0x200A), (0x2028, 0x2029), (0x202F, 0x202F),
    (0x205F, 0x205F), (0x3000, 0x3000)
  ]

/-- Whether a character has the property `White_Space`. -/
def isBlank (character : Char) : Bool :=
  blankRanges.holds character

/-- The text without the blanks at its two ends. -/
def trim (text : List Char) : List Char :=
  ((text.dropWhile isBlank).reverse.dropWhile isBlank).reverse

/-- Whether a byte is a space, tab, line feed, form feed or carriage return. -/
def isBlankByte (byte : UInt8) : Bool :=
  byte == 0x20 || byte == 0x09 || byte == 0x0A || byte == 0x0C || byte == 0x0D

/-- The bytes without the blank bytes at their two ends. -/
def trimBytes (bytes : List UInt8) : List UInt8 :=
  ((bytes.dropWhile isBlankByte).reverse.dropWhile isBlankByte).reverse

end LogRows.Text
