/-!
# Ranges of code points

The character properties of this library are closed ranges of code points.
A table lists its ranges in increasing order; membership only asks whether
some range holds the code point, so no order is needed to reason about it.
-/

namespace LogRows.Text

/-- Closed ranges of code points, first and last included. -/
abbrev CodeRanges :=
  List (Nat × Nat)

/-- Whether some range holds the character. -/
def CodeRanges.holds
    (ranges : CodeRanges)
    (character : Char) :
    Bool :=
  ranges.any fun range => range.1 ≤ character.toNat && character.toNat ≤ range.2

theorem CodeRanges.holds_iff
    (ranges : CodeRanges)
    (character : Char) :
    ranges.holds character = true ↔
      ∃ range ∈ ranges,
        range.1 ≤ character.toNat ∧ character.toNat ≤ range.2 := by
  simp [CodeRanges.holds]

end LogRows.Text
