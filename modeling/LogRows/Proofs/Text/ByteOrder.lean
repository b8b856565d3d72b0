import LogRows.Text.Utf8

/-!
# The order of texts and of their bytes

Keys are ordered by their characters.  The bytes of a greater character are greater, at
their first difference, than those of a smaller one whatever follows, so the bytes of two
texts are in the order of the texts (`encode_lt_encode`).
-/

namespace LogRows.Text

/-- The bytes that stand for a code point. -/
inductive Encodes (code : Nat) : List UInt8 → Prop where
  | one
      (le : code ≤ 127) :
      Encodes code [.ofNat code]
  | two
      (gt : 127 < code)
      (le : code ≤ 2047) :
      Encodes code [.ofNat (code / 64 % 32 + 192), .ofNat (code % 64 + 128)]
  | three
      (gt : 2047 < code)
      (le : code ≤ 65535) :
      Encodes code
        [.ofNat (code / 4096 % 16 + 224), .ofNat (code / 64 % 64 + 128),
          .ofNat (code % 64 + 128)]
  | four
      (gt : 65535 < code)
      (le : code ≤ 1114111) :
      Encodes code
        [.ofNat (code / 262144 % 8 + 240), .ofNat (code / 4096 % 64 + 128),
          .ofNat (code / 64 % 64 + 128), .ofNat (code % 64 + 128)]

theorem encodes_utf8EncodeChar (character : Char) :
    Encodes character.val.toNat (String.utf8EncodeChar character) := by
  fun_cases String.utf8EncodeChar character with
  | case1 code one => exact .one one
  | case2 code one two => exact .two (Nat.not_le.mp one) two
  | case3 code one two three => exact .three (Nat.not_le.mp two) three
  | case4 code one two three =>
      refine .four (Nat.not_le.mp three) ?_
      rcases character.valid with low | high
      · exact Nat.le_trans (Nat.le_of_lt low) (by decide)
      · exact Nat.le_of_lt_succ high.2

section

variable
    {code other : Nat}
    {bytes others : List UInt8}

/-- The first digit to the base 64 in which two codes differ decides. -/
theorem digits_lt (less : code < other) :
    code / 262144 < other / 262144 ∨
      code / 262144 = other / 262144 ∧
        (code / 4096 % 64 < other / 4096 % 64 ∨
          code / 4096 % 64 = other / 4096 % 64 ∧
            (code / 64 % 64 < other / 64 % 64 ∨
              code / 64 % 64 = other / 64 % 64 ∧ code % 64 < other % 64)) := by
  omega

/-- The bytes of a greater code are greater, whatever stands behind them. -/
theorem Encodes.append_lt_append
    (encodes : Encodes code bytes)
    (encodesOther : Encodes other others)
    (less : code < other)
    (rest more : List UInt8) :
    bytes ++ rest < others ++ more := by
  have digits := digits_lt less
  -- A longer form begins with a greater byte; forms of one length are compared digit by digit.
  cases encodes <;> cases encodesOther <;>
    simp (disch := omega) only [List.cons_append, List.nil_append, List.cons_lt_cons_iff,
      UInt8.lt_iff_toNat_lt, ← UInt8.toNat_inj, UInt8.toNat_ofNat', Nat.reducePow,
      Nat.mod_eq_of_lt] <;>
    omega

end

/-- The bytes of a text are those of its characters. -/
theorem encode_eq_flatMap (text : String) :
    encode text = text.toList.flatMap String.utf8EncodeChar := by
  rw [encode, String.toUTF8_eq_toByteArray, ← String.utf8Encode_toList, List.utf8Encode,
    List.toList_data_toByteArray]

theorem flatMap_utf8EncodeChar_lt
    {smaller greater : List Char}
    (less : smaller < greater) :
    smaller.flatMap String.utf8EncodeChar < greater.flatMap String.utf8EncodeChar := by
  induction less with
  | @nil character rest =>
      rw [List.flatMap_cons]
      cases bytes : String.utf8EncodeChar character with
      | nil => exact absurd bytes String.utf8EncodeChar_ne_nil
      | cons first others => exact List.nil_lt_cons _ _
  | rel less =>
      simp only [List.flatMap_cons]
      exact (encodes_utf8EncodeChar _).append_lt_append (encodes_utf8EncodeChar _)
        (UInt32.lt_iff_toNat_lt.mp less) _ _
  | cons _ ih =>
      simp only [List.flatMap_cons]
      exact List.append_left_lt ih

/-- Texts in their order are in the order of their bytes. -/
theorem encode_lt_encode
    {smaller greater : String}
    (less : smaller < greater) :
    encode smaller < encode greater := by
  rw [encode_eq_flatMap, encode_eq_flatMap]
  exact flatMap_utf8EncodeChar_lt (String.lt_iff.mp less)

end LogRows.Text
