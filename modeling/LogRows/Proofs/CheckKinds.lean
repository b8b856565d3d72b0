import LogRows.Proofs.ConditionPrinting
import LogRows.Proofs.StarPatterns

/-!
# Where the kinds of checks agree

Three kinds of checks compare a field with alternatives: that it is one of them, that it
holds one of them, and that it fits one of them as a pattern.  A pattern with stars at both
ends is a search (`fits_betweenStars`) and a pattern without stars a comparison
(`fits_of_starless`), so on a field that is named the first two kinds are cases of the
third (`fitting_agrees`).
-/

namespace LogRows

namespace Glob

/-- The pattern with a star at both ends. -/
def betweenStars (part : String) : String :=
  "*" ++ part ++ "*"

@[simp]
theorem toList_betweenStars (part : String) :
    (betweenStars part).toList = '*' :: (part.toList ++ ['*']) := by
  simp [betweenStars]

/-- A text between stars fits every text that it is a part of. -/
theorem fits_betweenStars
    {part : String}
    (starless : '*' ∉ part.toList)
    (text : String) :
    fits (betweenStars part) text = Text.occursIn part.toList text.toList := by
  have last (rest : List Char) : StandsFor ['*'] rest :=
    standsFor_star_iff.mpr ⟨[], List.nil_suffix, .nothing⟩
  rw [Bool.eq_iff_iff, fits_iff_standsFor, Text.occursIn_iff, toList_betweenStars,
    standsFor_star_iff, List.infix_iff_prefix_suffix]
  refine exists_congr fun tail => ?_
  rw [and_comm, standsFor_append_iff starless]
  refine and_congr_left' ?_
  constructor
  · rintro ⟨rest, rfl, _⟩
    exact List.prefix_append _ rest
  · rintro ⟨rest, rfl⟩
    exact ⟨rest, rfl, last rest⟩

theorem fits_of_starless
    {pattern : String}
    (starless : '*' ∉ pattern.toList)
    (text : String) :
    fits pattern text = (pattern == text) := by
  rw [fits, if_neg (by simpa using starless)]

end Glob

/-- A choice that is not negated fits as its pattern does. -/
theorem GlobAlternative.fits_ofText
    {text : String}
    (unmarked : text.toList.head? ≠ some '!')
    (value : String) :
    (ofText text).fits value = Glob.fits text value := by
  have plain : ofText text = ⟨text, false⟩ :=
    @Condition.ofText_text ⟨text, false⟩ fun _ => unmarked
  rw [plain, fits, Bool.bne_false]

namespace Condition

section

variable
    {field : String}
    {choices : List String}

/-- A pattern check of a named field looks at this field. -/
theorem holds_fitting_of_starless
    (starless : '*' ∉ field.toList)
    (fields : Fields)
    (value : String) :
    (fitting field value).holds fields =
      (fields.get? field).any fun found =>
        (alternatives value).any fun choice =>
          (GlobAlternative.ofText choice).fits found.plainText := by
  simp [fitting, holds, starless, Function.comp_def]

/-- The search for a part of a field is the check of a pattern between stars. -/
theorem holds_containing_eq
    (starless : '*' ∉ field.toList)
    (nonempty : choices ≠ [])
    (plain : ∀ choice ∈ choices, '*' ∉ choice.toList ∧ '|' ∉ choice.toList)
    (fields : Fields) :
    (containing field (joined choices)).holds fields =
      (fitting field (joined (choices.map Glob.betweenStars))).holds fields := by
  have undivided : ∀ pattern ∈ choices.map Glob.betweenStars, '|' ∉ pattern.toList := by
    intro pattern member
    rcases List.mem_map.mp member with ⟨choice, chosen, rfl⟩
    simp [(plain choice chosen).2]
  rw [holds_fitting_of_starless starless, alternatives_joined (by simpa using nonempty) undivided,
    containing, alternatives_joined nonempty fun choice chosen => (plain choice chosen).2, holds]
  congr 1
  funext found
  rw [List.any_map, Bool.eq_iff_iff, List.any_eq_true, List.any_eq_true]
  refine exists_congr fun choice => and_congr_right fun chosen => ?_
  rw [Function.comp, GlobAlternative.fits_ofText (by simp),
    Glob.fits_betweenStars (plain choice chosen).1]

/-- The comparison with a field is the check of a pattern without stars. -/
theorem holds_equalTo_eq
    (starless : '*' ∉ field.toList)
    (nonempty : choices ≠ [])
    (plain : ∀ choice ∈ choices, '*' ∉ choice.toList ∧ '|' ∉ choice.toList)
    (unmarked : ∀ choice ∈ choices, choice.toList.head? ≠ some '!')
    (fields : Fields) :
    (equalTo field (joined choices)).holds fields =
      (fitting field (joined choices)).holds fields := by
  rw [holds_fitting_of_starless starless, equalTo,
    alternatives_joined nonempty fun choice chosen => (plain choice chosen).2, holds]
  congr 1
  funext found
  rw [List.contains_eq_any_beq, Bool.eq_iff_iff, List.any_eq_true, List.any_eq_true]
  refine exists_congr fun choice => and_congr_right fun chosen => ?_
  rw [GlobAlternative.fits_ofText (unmarked choice chosen),
    Glob.fits_of_starless (plain choice chosen).1, Bool.beq_comm]

/--
On a field that is named, the search for parts and the comparison with values are pattern
checks: the one with each part between two stars, the other, if no value is marked as
negated, with the values as they are.
-/
theorem fitting_agrees
    (starless : '*' ∉ field.toList)
    (nonempty : choices ≠ [])
    (plain : ∀ choice ∈ choices, '*' ∉ choice.toList ∧ '|' ∉ choice.toList)
    (row : Row) :
    ((containing field (joined choices)).holds row.fields = true ↔
        (fitting field (joined (choices.map Glob.betweenStars))).holds row.fields = true) ∧
      ((∀ choice ∈ choices, choice.toList.head? ≠ some '!') →
        ((equalTo field (joined choices)).holds row.fields = true ↔
          (fitting field (joined choices)).holds row.fields = true)) := by
  constructor
  · rw [holds_containing_eq starless nonempty plain]
  · intro unmarked
    rw [holds_equalTo_eq starless nonempty plain unmarked]

/-- A number that holds the second part, and a value that is marked inside but not in front. -/
theorem fitting_agrees_of_number_and_mark :
    let row : Row := .data (.ofList [("code", .integer 4047), ("flag", .string "a!b")])
    ((containing "code" "x|40").holds row.fields = true ↔
        (fitting "code" "*x*|*40*").holds row.fields = true) ∧
      (containing "code" "x|40").holds row.fields = true ∧
      ((equalTo "flag" "|a!b").holds row.fields = true ↔
        (fitting "flag" "|a!b").holds row.fields = true) ∧
      (equalTo "flag" "|a!b").holds row.fields = true := by
  intro row
  have parts := (@fitting_agrees "code" ["x", "40"] (by decide) (by decide) (by decide) row).1
  have values :=
    (@fitting_agrees "flag" ["", "a!b"] (by decide) (by decide) (by decide) row).2 (by decide)
  exact ⟨parts, by decide +kernel, values, by decide +kernel⟩

end

end Condition

end LogRows
