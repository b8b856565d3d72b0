import LogRows.Row

/-!
# Written values hold no control characters

Whatever a value holds, its text on one line has no control character in it: strings are
written with escapes, and all else is digits, words and marks (`uncontrolled_compact`).
So only a value that is a string itself can bring a control character into what
conditions compare and reports show (`uncontrolled_plainText`).
-/

namespace LogRows

/-- Whether no character of a text is an ASCII control character. -/
def Text.Uncontrolled (text : List Char) : Prop :=
  text.all (0x20 ≤ ·.toNat) = true

instance (text : List Char) : Decidable (Text.Uncontrolled text) :=
  inferInstanceAs (Decidable (_ = true))

namespace Text

theorem uncontrolled_iff {text : List Char} :
    Uncontrolled text ↔ ∀ character ∈ text, 0x20 ≤ character.toNat := by
  simp [Uncontrolled]

theorem Uncontrolled.of_subset
    {text part : List Char}
    (whole : Uncontrolled text)
    (inside : part ⊆ text) :
    Uncontrolled part :=
  uncontrolled_iff.mpr fun character member => uncontrolled_iff.mp whole character (inside member)

theorem uncontrolled_append {first second : List Char} :
    Uncontrolled (first ++ second) ↔ Uncontrolled first ∧ Uncontrolled second := by
  simp only [Uncontrolled, List.all_append, Bool.and_eq_true]

theorem uncontrolled_cons {character : Char} {text : List Char} :
    Uncontrolled (character :: text) ↔ 0x20 ≤ character.toNat ∧ Uncontrolled text := by
  simp only [Uncontrolled, List.all_cons, Bool.and_eq_true, decide_eq_true_eq]

theorem uncontrolled_of_isDigit
    {text : List Char}
    (digits : ∀ character ∈ text, character.isDigit = true) :
    Uncontrolled text := by
  refine uncontrolled_iff.mpr fun character member => ?_
  have bounds := Char.isDigit_iff_toNat.mp (digits character member)
  exact Nat.le_trans (by decide) bounds.1

theorem uncontrolled_toDigits (number : Nat) :
    Uncontrolled (Nat.toDigits 10 number) :=
  uncontrolled_of_isDigit fun _ member =>
    Nat.isDigit_of_mem_toDigits (by decide) (by decide) member

end Text

open Text

/-! ## Numbers -/

namespace Decimal

/-- The digits of a number, its zeros at the end left out. -/
theorem Digits.isDigit_ofNat (number : Nat) (power : Int) :
    ∀ digit ∈ (Digits.ofNat number power).digits, digit.isDigit = true := by
  intro digit member
  have kept := (List.dropWhile_sublist (· == '0')).subset (List.mem_reverse.mp member)
  exact Nat.isDigit_of_mem_toDigits (by decide) (by decide) (List.mem_reverse.mp kept)

theorem isDigit_shortest (tie : Tie) (mantissa : Nat) (exponent : Int) :
    ∀ digit ∈ (shortest tie mantissa exponent).digits, digit.isDigit = true := by
  have zero : ∀ digit ∈ ['0'], digit.isDigit = true :=
    fun _ member => List.mem_singleton.mp member ▸ rfl
  unfold shortest
  split
  case isTrue => exact zero
  case isFalse =>
    simp only
    cases found : List.findSome? _ (List.range 17) with
    | none => exact zero
    | some digits =>
        obtain ⟨count, _, attempted⟩ := List.exists_of_findSome?_eq_some found
        obtain ⟨point, _, rfl⟩ := Option.map_eq_some_iff.mp attempted
        exact Digits.isDigit_ofNat _ _

section Written

variable
    {number : Digits}
    (digits : ∀ digit ∈ number.digits, digit.isDigit = true)

include digits

theorem Digits.uncontrolled_positional
    {tail : List Char}
    (ends : Uncontrolled tail) :
    Uncontrolled (number.positional tail) := by
  have zeros (count : Nat) : Uncontrolled (List.replicate count '0') :=
    uncontrolled_of_isDigit fun _ member => (List.mem_replicate.mp member).2 ▸ rfl
  have written := uncontrolled_of_isDigit digits
  have leading (count : Nat) := written.of_subset (List.take_subset count number.digits)
  have fraction (count : Nat) := written.of_subset (List.drop_subset count number.digits)
  unfold positional
  split
  case isTrue =>
    simp only [uncontrolled_append]
    exact ⟨⟨by decide, zeros _⟩, written⟩
  case isFalse =>
    simp only
    split
    case isTrue =>
      simp only [uncontrolled_append]
      exact ⟨⟨written, zeros _⟩, ends⟩
    case isFalse =>
      simp only [uncontrolled_append]
      exact ⟨⟨leading _, by decide⟩, fraction _⟩

theorem Digits.uncontrolled_scientific : Uncontrolled number.scientific := by
  have written := uncontrolled_of_isDigit digits
  have leading := written.of_subset (List.take_subset 1 number.digits)
  have fraction := written.of_subset (List.drop_subset 1 number.digits)
  unfold scientific
  simp only [uncontrolled_append]
  refine ⟨⟨⟨leading, ?point⟩, ?sign⟩, uncontrolled_toDigits _⟩
  case point =>
    split
    · decide
    · exact uncontrolled_cons.mpr ⟨by decide, fraction⟩
  case sign =>
    split <;> decide

end Written

theorem Binary64.uncontrolled_sign (number : Binary64) : Uncontrolled number.sign := by
  unfold sign
  split <;> decide

theorem Binary64.uncontrolled_positional (number : Binary64) :
    Uncontrolled number.positional.toList := by
  rw [positional, String.toList_ofList, uncontrolled_append]
  constructor
  · exact number.uncontrolled_sign
  · exact Digits.uncontrolled_positional (isDigit_shortest _ _ _) (by decide)

theorem Binary64.uncontrolled_compact (number : Binary64) :
    Uncontrolled number.compact.toList := by
  have digits := isDigit_shortest .even number.mantissa number.exponent
  rw [compact, String.toList_ofList, uncontrolled_append]
  constructor
  · exact number.uncontrolled_sign
  · split
    · exact Digits.uncontrolled_positional digits (by decide)
    · exact Digits.uncontrolled_scientific digits

end Decimal

namespace Json

theorem uncontrolled_integer (number : Int) :
    Uncontrolled (toString number).toList := by
  cases number with
  | ofNat number =>
      show Uncontrolled number.repr.toList
      rw [Nat.toList_repr]
      exact uncontrolled_toDigits number
  | negSucc number =>
      show Uncontrolled ("-" ++ (number + 1).repr).toList
      rw [String.toList_append, Nat.toList_repr, uncontrolled_append]
      exact ⟨by decide, uncontrolled_toDigits _⟩

/-! ## Strings -/

theorem uncontrolled_twoHexDigits :
    ∀ code < 0x20, Uncontrolled (twoHexDigits code) := by
  decide

/-- Control characters are written by letters and digits. -/
theorem uncontrolled_escapeChar (character : Char) :
    Uncontrolled (escapeChar character) := by
  unfold escapeChar
  split
  case isTrue mark =>
    simp only [Bool.or_eq_true, decide_eq_true_eq] at mark
    rcases mark with rfl | rfl <;> decide
  case isFalse =>
    repeat (split; decide)
    split
    case isTrue control =>
      exact uncontrolled_append.mpr ⟨by decide, uncontrolled_twoHexDigits _ control⟩
    case isFalse visible =>
      exact uncontrolled_cons.mpr ⟨Nat.le_of_not_lt visible, by decide⟩

theorem uncontrolled_compactString (text : String) :
    Uncontrolled (compactString text).toList := by
  rw [compactString, String.toList_ofList]
  simp only [uncontrolled_append]
  refine ⟨⟨by decide, uncontrolled_iff.mpr fun character member => ?_⟩, by decide⟩
  obtain ⟨source, _, written⟩ := List.mem_flatMap.mp member
  exact uncontrolled_iff.mp (uncontrolled_escapeChar source) character written

/-! ## Values -/

theorem uncontrolled_comma (first : Bool) :
    Uncontrolled (if first then "" else ",").toList := by
  cases first <;> decide

mutual

theorem Value.uncontrolled_compact (value : Value) :
    Uncontrolled value.compact.toList := by
  match value with
  | .null => rw [Value.compact]; decide
  | .boolean truth => cases truth <;> rw [Value.compact] <;> decide
  | .integer number => rw [Value.compact]; exact uncontrolled_integer number
  | .double number => rw [Value.compact]; exact number.uncontrolled_compact
  | .string text => rw [Value.compact]; exact uncontrolled_compactString text
  | .array items =>
      rw [Value.compact]
      simp only [String.toList_append, uncontrolled_append]
      exact ⟨⟨by decide, uncontrolled_compactItems true items⟩, by decide⟩
  | .object fields =>
      rw [Value.compact]
      simp only [String.toList_append, uncontrolled_append]
      exact ⟨⟨by decide, uncontrolled_compactFields true fields⟩, by decide⟩

theorem uncontrolled_compactItems (first : Bool) (items : List Value) :
    Uncontrolled (compactItems first items).toList := by
  match items with
  | [] => rw [compactItems]; decide
  | item :: rest =>
      have later := uncontrolled_compactItems false rest
      rw [compactItems]
      simp only [String.toList_append, uncontrolled_append]
      exact ⟨⟨uncontrolled_comma first, item.uncontrolled_compact⟩, later⟩

theorem uncontrolled_compactFields (first : Bool) (fields : List (String × Value)) :
    Uncontrolled (compactFields first fields).toList := by
  match fields with
  | [] => rw [compactFields]; decide
  | (key, value) :: rest =>
      have name := uncontrolled_compactString key
      have later := uncontrolled_compactFields false rest
      rw [compactFields]
      simp only [String.toList_append, uncontrolled_append]
      exact ⟨⟨⟨⟨uncontrolled_comma first, name⟩, by decide⟩, value.uncontrolled_compact⟩, later⟩

end

/-- Only a value that is a string itself can have a control character in its plain text. -/
theorem Value.uncontrolled_plainText
    {value : Value}
    (unquoted : ∀ text, value ≠ .string text) :
    Uncontrolled value.plainText.toList := by
  cases value with
  | null => decide
  | boolean truth => cases truth <;> decide
  | integer number => exact uncontrolled_integer number
  | double number => exact number.uncontrolled_positional
  | string text => exact absurd rfl (unquoted text)
  | array items => exact Value.uncontrolled_compact _
  | object fields => exact Value.uncontrolled_compact _

end Json

end LogRows
