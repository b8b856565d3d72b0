/-!
# Finding and replacing a piece of text

`occursIn` tells whether a piece occurs in a text (`occursIn_iff`).  `replaceAll`
replaces the occurrences of a piece from left to right.  What it has written is
never looked at again, and after an occurrence the search goes on behind it, so
occurrences never overlap.
-/

namespace LogRows.Text

/-- Whether a text occurs in another. -/
def occursIn (part : List Char) : (whole : List Char) → Bool
  | [] => part.isEmpty
  | character :: rest =>
      part.isPrefixOf (character :: rest) || occursIn part rest

/-- The search finds the parts of a text. -/
theorem occursIn_iff {part whole : List Char} :
    occursIn part whole = true ↔ part <:+: whole := by
  induction whole with
  | nil => rw [occursIn, List.isEmpty_iff, List.infix_nil]
  | cons character rest ih =>
      rw [occursIn, Bool.or_eq_true, List.isPrefixOf_iff_prefix, ih, List.infix_cons_iff]

/-- Replace every occurrence of a piece, from left to right. -/
def replaceAll (piece replacement : List Char) : List Char → List Char
  | [] => []
  | character :: rest =>
      if piece.isPrefixOf (character :: rest) then
        replacement ++ replaceAll piece replacement (rest.drop (piece.length - 1))
      else
        character :: replaceAll piece replacement rest
termination_by text => text.length
decreasing_by
  · simp only [List.length_drop, List.length_cons]
    omega
  · simp only [List.length_cons]
    omega

example :
    replaceAll "aa".toList "b".toList "aaaca".toList = "baca".toList := by
  simp [replaceAll]

end LogRows.Text
