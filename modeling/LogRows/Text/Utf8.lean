/-!
# Well-formed UTF-8

`encode` and `decode?` are the bytes of a text and the text of bytes;
`decode?_encode` says that encoding loses nothing.  `validPrefix` counts the
bytes before the first one that does not belong to a well-formed character: no
overlong forms, no surrogates, nothing beyond the last code point, and no
character that the end of the input cuts off.
-/

namespace LogRows.Text

/-- The bytes of a text. -/
def encode (text : String) : List UInt8 :=
  text.toUTF8.data.toList

/-- The text that well-formed bytes stand for. -/
def decode? (bytes : List UInt8) : Option String :=
  String.fromUTF8? ⟨bytes.toArray⟩

@[simp]
theorem decode?_encode (text : String) :
    decode? (encode text) = some text := by
  simp only [decode?, encode, Array.toArray_toList, String.fromUTF8?,
    String.toUTF8_eq_toByteArray, dif_pos text.isValidUTF8]
  rfl

/-- Whether a byte continues a character. -/
def continues (byte : UInt8) : Bool :=
  0x80 ≤ byte && byte ≤ 0xBF

/-- The number of bytes of the well-formed character at the head, if there is one. -/
def characterWidth? : List UInt8 → Option Nat
  | [] => none
  | first :: rest =>
      if first < 0x80 then
        some 1
      else if 0xC2 ≤ first && first ≤ 0xDF then
        match rest with
        | second :: _ => if continues second then some 2 else none
        | _ => none
      else if 0xE0 ≤ first && first ≤ 0xEF then
        match rest with
        | second :: third :: _ =>
            let least := if first = 0xE0 then 0xA0 else 0x80
            let greatest := if first = 0xED then 0x9F else 0xBF
            if least ≤ second && second ≤ greatest && continues third then some 3 else none
        | _ => none
      else if 0xF0 ≤ first && first ≤ 0xF4 then
        match rest with
        | second :: third :: fourth :: _ =>
            let least := if first = 0xF0 then 0x90 else 0x80
            let greatest := if first = 0xF4 then 0x8F else 0xBF
            if least ≤ second && second ≤ greatest && continues third && continues fourth then
              some 4
            else
              none
        | _ => none
      else
        none

/-- Count the bytes of the well-formed characters at the head, at most `fuel` characters. -/
def validPrefixWithin : (fuel : Nat) → List UInt8 → Nat
  | 0, _ => 0
  | fuel + 1, bytes =>
      match characterWidth? bytes with
      | some width => width + validPrefixWithin fuel (bytes.drop width)
      | none => 0

/-- The number of bytes before the first one that belongs to no well-formed character. -/
def validPrefix (bytes : List UInt8) : Nat :=
  validPrefixWithin bytes.length bytes

example : validPrefix [0x61, 0xC3, 0xA9, 0xED, 0xA0, 0x80] = 3 := by decide

end LogRows.Text
