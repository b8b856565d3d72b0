import LogRows.Date
import LogRows.Proofs.Text.Replacing

/-!
# File names with a date

The date of the day stands in a file name in place of every placeholder, and of nothing
else: the name is cut at the leftmost placeholders that do not overlap, and its parts are
joined by the date.  No placeholder is left, whatever stood beside those that were
replaced, so a name that has its date keeps it (`expandToday_characterized`).

The reason is that dates are written with digits and signs, and a placeholder with
letters between at signs.
-/

namespace LogRows

namespace Date

theorem padded_isDigit (width number : Nat) :
    ∀ character ∈ padded width number, character.isDigit = true := by
  intro character member
  rcases List.mem_append.mp member with zero | digit
  · rw [(List.mem_replicate.mp zero).2]
    rfl
  · exact Nat.isDigit_of_mem_toDigits (by decide) (by decide) digit

/-- The sign of a year is written in front of its digits, if at all. -/
theorem mem_yearText
    {year : Int}
    {character : Char}
    (member : character ∈ yearText year) :
    character.isDigit = true ∨ character = '-' ∨ character = '+' := by
  rcases List.mem_append.mp member with sign | digit
  · repeat' split at sign
    · exact .inr (.inl (List.mem_singleton.mp sign))
    · exact .inr (.inr (List.mem_singleton.mp sign))
    · cases sign
  · exact .inl (padded_isDigit _ _ _ digit)

theorem mem_text
    {date : Date}
    {character : Char}
    (member : character ∈ date.text) :
    character.isDigit = true ∨ character = '-' ∨ character = '+' := by
  simp only [text, List.mem_append] at member
  rcases member with (((year | dash) | month) | dash) | day
  · exact mem_yearText year
  · exact .inr (.inl (List.mem_singleton.mp dash))
  · exact .inl (padded_isDigit _ _ _ month)
  · exact .inr (.inl (List.mem_singleton.mp dash))
  · exact .inl (padded_isDigit _ _ _ day)

theorem text_ne_nil (date : Date) : date.text ≠ [] := by
  simp [text]

end Date

theorem todayPlaceholder_ne_nil : todayPlaceholder ≠ [] := by
  decide

/-- No character of a date stands in the placeholder. -/
theorem not_mem_todayPlaceholder (date : Date) :
    ∀ character ∈ date.text, character ∉ todayPlaceholder := by
  have letters :
      todayPlaceholder.all fun letter =>
        !letter.isDigit && letter != '-' && letter != '+' := by
    decide
  intro character member inside
  have letter := List.all_eq_true.mp letters character inside
  rcases Date.mem_text member with digit | rfl | rfl
  · simp [digit] at letter
  · cases letter
  · cases letter

/-- A name without a placeholder stays as it is. -/
theorem expandToday_of_not_isInfix
    {path : String}
    (absent : ¬ todayPlaceholder <:+: path.toList)
    (date : Date) :
    expandToday path date = path :=
  if_neg (mt Text.occursIn_iff.mp absent)

/-- Replacing would not have changed a name that is left alone. -/
theorem toList_expandToday (path : String) (date : Date) :
    (expandToday path date).toList =
      Text.replaceAll todayPlaceholder date.text path.toList := by
  by_cases occurs : todayPlaceholder <:+: path.toList
  · rw [expandToday, if_pos (Text.occursIn_iff.mpr occurs), String.toList_ofList]
  · rw [expandToday_of_not_isInfix occurs, Text.replaceAll_of_not_isInfix occurs]

/--
The name with a date holds no placeholder; it consists of the parts of the given name
between the leftmost placeholders that do not overlap, of which there is one list, joined
by the date; and no date changes it any more.
-/
theorem expandToday_characterized (path : String) (date : Date) :
    ¬ todayPlaceholder <:+: (expandToday path date).toList ∧
      (∃ parts,
        Text.Parts todayPlaceholder path.toList parts ∧
          (∀ others, Text.Parts todayPlaceholder path.toList others → others = parts) ∧
          (expandToday path date).toList = date.text.intercalate parts) ∧
      ∀ later, expandToday (expandToday path date) later = expandToday path date := by
  have absent : ¬ todayPlaceholder <:+: (expandToday path date).toList := by
    rw [toList_expandToday]
    exact Text.not_isInfix_replaceAll date.text_ne_nil (not_mem_todayPlaceholder date)
      todayPlaceholder_ne_nil path.toList
  refine ⟨absent, ?_, fun later => ?_⟩
  · obtain ⟨parts, cut⟩ := Text.exists_parts todayPlaceholder_ne_nil path.toList
    refine ⟨parts, cut, fun others other => cut.unique other, ?_⟩
    rw [toList_expandToday, cut.replaceAll_eq todayPlaceholder_ne_nil]
  · exact expandToday_of_not_isInfix absent later

/-- Of two placeholders that share an at sign the first one is replaced. -/
example :
    expandToday "@today@today@" ⟨-1, 12, 31⟩ = "-0001-12-31today@" := by
  cbv

/-- Taking a placeholder out makes no new one of what stands beside it. -/
example :
    expandToday "@to@today@day@" ⟨2024, 5, 17⟩ = "@to2024-05-17day@" := by
  cbv

end LogRows
