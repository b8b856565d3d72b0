import LogRows.Proofs.CaselessRows
import LogRows.Proofs.FieldSelection
import LogRows.Proofs.Text.Replacing
import LogRows.Proofs.WrittenValues
import LogRows.Report.RowText

/-!
# Reports without their colors

Colors add nothing to a report but escape sequences: a report with colors from which all
sequences are deleted is the report without colors (`unstyled_rowText`), for every row
that holds no escape character of its own.

Deletion looks at a text from its beginning, and what stands in front of a sequence may
not reach into it.  `Unstyles` therefore speaks of a text together with all that may
follow.  In this form it carries over from the pieces of a report to the whole.
-/

namespace LogRows

/--
Whether no escape character stands in the keys of a row, in the values that are strings,
or in the text of its error.  Other values may hold any character, for they are written
without control characters.
-/
def Row.HoldsNoEscape : Row → Prop
  | data fields =>
      ∀ entry ∈ fields.entries,
        Report.Style.escape ∉ entry.1.toList ∧
          ∀ text, entry.2 = .string text → Report.Style.escape ∉ text.toList
  | failed error => Report.Style.escape ∉ error.message.toList

namespace Report

namespace Style

/-! ## Deleting escape sequences -/

/--
What stands behind the escape sequence at the beginning of a text, if there is one: the
escape character and a bracket, and all that follows up to the next `m`.
-/
def behindSequence? : List Char → Option (List Char)
  | first :: second :: rest =>
      if first = escape ∧ second = '[' ∧ 'm' ∈ rest then
        some ((rest.dropWhile (· != 'm')).drop 1)
      else
        none
  | _ => none

theorem behindSequence?_eq_some_iff {text behind : List Char} :
    behindSequence? text = some behind ↔
      ∃ codes, 'm' ∉ codes ∧ text = escape :: '[' :: (codes ++ 'm' :: behind) := by
  have behindCodes {codes rest : List Char} (unended : 'm' ∉ codes) :
      ((codes ++ 'm' :: rest).dropWhile (· != 'm')).drop 1 = rest := by
    have going : ∀ code ∈ codes, (code != 'm') = true :=
      fun code member => bne_iff_ne.mpr fun ends => unended (ends ▸ member)
    rw [List.dropWhile_append_of_pos going]
    rfl
  constructor
  · intro found
    unfold behindSequence? at found
    split at found
    case h_2 => cases found
    case h_1 first second rest =>
      split at found
      case isFalse => cases found
      case isTrue begins =>
        obtain ⟨rfl, rfl, ends⟩ := begins
        obtain ⟨codes, rest, rfl, unended⟩ := List.eq_append_cons_of_mem ends
        rw [behindCodes unended] at found
        cases found
        exact ⟨codes, unended, rfl⟩
  · rintro ⟨codes, unended, rfl⟩
    rw [behindSequence?, if_pos ⟨rfl, rfl, by simp⟩, behindCodes unended]

theorem length_behindSequence?
    {text behind : List Char}
    (found : behindSequence? text = some behind) :
    behind.length < text.length := by
  obtain ⟨codes, _, rfl⟩ := behindSequence?_eq_some_iff.mp found
  simp only [List.length_cons, List.length_append]
  omega

/-- A text without its escape sequences. -/
def unstyled (text : List Char) : List Char :=
  match text with
  | [] => []
  | character :: rest =>
      match _found : behindSequence? (character :: rest) with
      | some behind => unstyled behind
      | none => character :: unstyled rest
termination_by text.length
decreasing_by
  · exact length_behindSequence? _found
  · exact Nat.lt_succ_self _

/-- A character that begins no sequence stays. -/
theorem unstyled_cons
    {character : Char}
    (other : character ≠ escape)
    (rest : List Char) :
    unstyled (character :: rest) = character :: unstyled rest := by
  rw [unstyled]
  split
  case h_1 behind found =>
    obtain ⟨codes, _, begins⟩ := behindSequence?_eq_some_iff.mp found
    exact absurd (List.cons.inj begins).1 other
  case h_2 => rfl

/-- A sequence is deleted up to its first `m`. -/
theorem unstyled_sequence
    {codes : List Char}
    (unended : 'm' ∉ codes)
    (rest : List Char) :
    unstyled (escape :: '[' :: (codes ++ 'm' :: rest)) = unstyled rest := by
  have sequence : behindSequence? (escape :: '[' :: (codes ++ 'm' :: rest)) = some rest :=
    behindSequence?_eq_some_iff.mpr ⟨codes, unended, rfl⟩
  rw [unstyled]
  split
  case h_1 behind found => rw [Option.some.inj (found.symm.trans sequence)]
  case h_2 absent => cases absent.symm.trans sequence

/-- Whether one text is another with escape sequences in it, whatever follows the two. -/
def Unstyles (styled plain : List Char) : Prop :=
  ∀ rest, unstyled (styled ++ rest) = plain ++ unstyled rest

namespace Unstyles

theorem eq
    {styled plain : List Char}
    (unstyles : Unstyles styled plain) :
    unstyled styled = plain := by
  have alone := unstyles []
  rwa [List.append_nil, unstyled, List.append_nil] at alone

theorem append
    {styled plain other otherPlain : List Char}
    (first : Unstyles styled plain)
    (second : Unstyles other otherPlain) :
    Unstyles (styled ++ other) (plain ++ otherPlain) := by
  intro rest
  rw [List.append_assoc, first, second, List.append_assoc]

theorem flatMap
    {Item : Type}
    {items : List Item}
    {styled plain : Item → List Char}
    (each : ∀ item ∈ items, Unstyles (styled item) (plain item)) :
    Unstyles (items.flatMap styled) (items.flatMap plain) := by
  induction items with
  | nil => exact fun _ => rfl
  | cons item items ih =>
      exact (each item List.mem_cons_self).append
        (ih fun other member => each other (List.mem_cons_of_mem _ member))

/-- A text without escape characters is as it is. -/
theorem of_not_mem
    {text : List Char}
    (clean : escape ∉ text) :
    Unstyles text text := by
  intro rest
  induction text with
  | nil => rfl
  | cons character text ih =>
      rw [List.mem_cons, not_or] at clean
      rw [List.cons_append, unstyled_cons (Ne.symm clean.1), ih clean.2, List.cons_append]

theorem sequence
    {codes : List Char}
    (unended : 'm' ∉ codes) :
    Unstyles ([escape, '['] ++ codes ++ ['m']) [] := by
  intro rest
  have deleted := unstyled_sequence unended rest
  simpa using deleted

end Unstyles

/-! ## Styles -/

/-- The codes of a style are digits with semicolons between them. -/
theorem m_not_mem_codes (style : Style) :
    'm' ∉ (String.intercalate ";" (style.codes.map toString)).toList := by
  intro member
  rw [String.toList_intercalate] at member
  rcases Text.mem_intercalate member with between | ⟨part, written, inside⟩
  · exact absurd between (by decide)
  · simp only [List.map_map, List.mem_map, Function.comp_apply] at written
    obtain ⟨code, _, rfl⟩ := written
    have digits : 'm' ∈ Nat.toDigits 10 code := by simpa using inside
    exact absurd (Nat.isDigit_of_mem_toDigits (by decide) (by decide) digits) (by decide)

theorem unstyles_opening (style : Style) : Unstyles style.opening [] :=
  .sequence style.m_not_mem_codes

theorem unstyles_reset : Unstyles reset [] :=
  @Unstyles.sequence ['0'] (by decide)

/-- The text of a painted text is what was painted. -/
theorem unstyles_paint
    (color : Bool)
    (style : Style)
    {text : String}
    (clean : escape ∉ text.toList) :
    Unstyles (style.paint color text).toList text.toList := by
  have unreset : ¬ reset <:+: text.toList := fun occurs =>
    clean (occurs.subset List.mem_cons_self)
  unfold paint
  split
  case isTrue => exact .of_not_mem clean
  case isFalse =>
    rw [String.toList_ofList, Text.replaceAll_of_not_isInfix unreset]
    have inside := style.unstyles_opening.append (Unstyles.of_not_mem clean)
    simpa using inside.append unstyles_reset

end Style

open Style

/-! ## The pieces of a report -/

theorem escape_not_mem_of_uncontrolled
    {text : List Char}
    (uncontrolled : Text.Uncontrolled text) :
    escape ∉ text := by
  intro member
  exact absurd (Text.uncontrolled_iff.mp uncontrolled escape member) (by decide)

theorem unstyles_errorLine
    {error : RowError}
    (clean : escape ∉ error.message.toList) :
    Unstyles (errorLine true error).toList (errorLine false error).toList := by
  refine unstyles_paint true _ ?_
  rw [String.toList_append, List.mem_append, not_or]
  exact ⟨by decide, clean⟩

section Data

variable
    {fields : Fields}
    (clean : (Row.data fields).HoldsNoEscape)

include clean

theorem escape_not_mem_key
    {field : String}
    (member : field ∈ fields.keys) :
    escape ∉ field.toList := by
  obtain ⟨entry, among, rfl⟩ := List.mem_map.mp member
  exact (clean entry among).1

theorem escape_not_mem_fieldText (field : String) :
    escape ∉ (fieldText fields field).toList := by
  unfold fieldText
  cases found : fields.get? field with
  | none => exact List.not_mem_nil
  | some value =>
      have entry := (clean _ ((fields.mem_entries_iff).mpr found)).2
      by_cases isText : ∃ text, value = .string text
      · obtain ⟨text, rfl⟩ := isText
        exact entry text rfl
      · refine escape_not_mem_of_uncontrolled (Json.Value.uncontrolled_plainText ?_)
        exact fun text equal => isText ⟨text, equal⟩

theorem unstyles_fieldLine
    {field : String}
    (member : field ∈ fields.keys)
    (accented : Bool) :
    Unstyles
      (fieldLine true accented field (fieldText fields field)).toList
      (fieldLine false accented field (fieldText fields field)).toList := by
  have key := escape_not_mem_key clean member
  have value := escape_not_mem_fieldText clean field
  simp only [fieldLine, String.toList_append, paint_false]
  exact ((((Unstyles.of_not_mem (by decide)).append (unstyles_paint true _ key)).append
    (.of_not_mem (by decide))).append (unstyles_paint true _ value)).append
      (.of_not_mem (by decide))

end Data

section Rows

variable
    {row : Row}
    (clean : row.HoldsNoEscape)

include clean

theorem unstyles_header :
    Unstyles (header true row).toList (header false row).toList := by
  unfold header
  split
  case h_1 level found =>
    refine unstyles_paint true _ ?_
    have text : escape ∉ level.toList := by
      cases row with
      | failed error => cases found
      | data fields => exact (clean _ ((fields.mem_entries_iff).mpr found)).2 level rfl
    simp only [String.toList_append, List.mem_append, not_or]
    exact ⟨⟨by decide, text⟩, by decide⟩
  case h_2 => exact unstyles_paint true _ (by decide)

theorem unstyles_body (selection : Selection) :
    Unstyles (body selection true row).toList (body selection false row).toList := by
  cases row with
  | failed error =>
      simp only [body, String.toList_append]
      exact (unstyles_errorLine clean).append (.of_not_mem (by decide))
  | data fields =>
      simp only [body, String.toList_join, List.flatMap_map]
      exact .flatMap fun field member =>
        unstyles_fieldLine clean ((mem_select selection fields).mp member).1 _

/-- Colors add nothing but escape sequences to the text of a row. -/
theorem unstyled_rowText (selection : Selection) :
    unstyled (rowText selection true row).toList = (rowText selection false row).toList := by
  refine Unstyles.eq ?_
  have blank : Unstyles " ".toList " ".toList := .of_not_mem (by decide)
  have lineEnd : Unstyles "\n".toList "\n".toList := .of_not_mem (by decide)
  have stars : Unstyles divider.toList divider.toList := .of_not_mem (by decide)
  have head := ((stars.append blank).append (unstyles_header clean)).append blank
  have upper := (head.append stars).append lineEnd
  simp only [rowText, String.toList_append]
  exact (upper.append (unstyles_body clean selection)).append stars

end Rows

/-- A text that looks like the end of a sequence stays, and so does a sequence in an array. -/
theorem unstyled_rowText_of_brackets :
    let row : Row :=
      .data <| .ofList
        [("level", .string "WARN"), ("message", .string "[0m"),
          ("parts", .array [.string "\x1b[0m"])]
    row.HoldsNoEscape ∧
      unstyled (rowText .default true row).toList = (rowText .default false row).toList := by
  intro row
  have clean : row.HoldsNoEscape := by
    intro entry member
    have entries :
        entry ∈
          [("level", Json.Value.string "WARN"), ("message", .string "[0m"),
            ("parts", .array [.string "\x1b[0m"])] := member
    simp only [List.mem_cons, List.not_mem_nil, or_false] at entries
    rcases entries with rfl | rfl | rfl
    · exact ⟨by decide, by rintro _ ⟨⟩; decide⟩
    · exact ⟨by decide, by rintro _ ⟨⟩; decide⟩
    · exact ⟨by decide, by rintro _ ⟨⟩⟩
  exact ⟨clean, unstyled_rowText clean .default⟩

end Report

end LogRows
